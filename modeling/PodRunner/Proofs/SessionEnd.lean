import PodRunner.Proofs.Streaming

/-!
# Sessions come to an end

A session that has not come to its end goes on (`Transfer.Kept.exists_step`): if the caller and its
relays can do nothing, there is something to do for the connection or the server.  Every step makes
the session lighter (`Transfer.weight_step`), so it does not go on forever.  When the caller returns
and has not given up, all output has been delivered (`Transfer.Kept.woven`), and the result is what
the messages come to (`Transfer.Kept.eq_verdict`).
-/

namespace PodRunner.Api

namespace Transfer

variable {lib : Library} {enough : List UInt8 → Prop} {input : List UInt8} {sent : List Message}
variable {t t' : Transfer} {r : Except ClusterError Unit}

/-! ## What there is at the end -/

/-- The caller has come to something when it has returned or given up. -/
theorem result?_eq_some (came : t.phase.result? = some r) :
    t.phase = .returned r ∨ t.phase = .broken := by
  cases phase : t.phase with
  | returned r' =>
    rw [phase] at came
    exact .inl (congrArg Phase.returned (Option.some.inj came))
  | broken => exact .inr rfl
  | writing | waiting | draining =>
    rw [phase] at came
    cases came

theorem Kept.eq_verdict (h : Kept lib enough input sent t) (returned : t.phase = .returned r) :
    r = verdict lib.limit lib.fault sent := by
  obtain ⟨-, e, ended, rfl⟩ := h.phased.returned r returned
  rw [← h.foreseen.fate, fate, ended]
  cases t.status <;> rfl

section Short

variable (h : Kept lib enough input sent t) (short : ∀ m ∈ sent, m.length ≤ lib.limit)

include h short

/-- If no message is too long, everything is handled by the time the session has ended. -/
theorem Kept.settled (gone : t.ended ≠ none) : t.Settled enough := by
  refine (h.foreseen.settled (.inr gone)).resolve_right fun choked => ?_
  obtain ⟨m, hm, long⟩ := choked.long
  exact absurd (h.foreseen.short short m hm) (Nat.not_le.2 long)

theorem Kept.answered (came : t.phase.result? = some r) : t.Answered enough := by
  rcases result?_eq_some came with returned | broken
  · obtain ⟨-, e, ended, -⟩ := h.phased.returned r returned
    exact (h.settled short (ended ▸ Option.some_ne_none e)).answered
  · exact (h.settled short (h.phased.broken broken)).answered

theorem Kept.woven (returned : t.phase = .returned r) :
    Woven (payload · sent) t.trace := by
  obtain ⟨stopped, e, ended, -⟩ := h.phased.returned r returned
  have unbroken : t.phase ≠ .broken := by rw [returned]; exact Phase.noConfusion
  have closing := (h.settled short (ended ▸ Option.some_ne_none e)).closing
  obtain ⟨read, woven, sum⟩ := h.output
  have all : read = (payload · sent) := by
    funext o
    have nothing := payload_eq_nil (fun m hm => Message.isFrame_of_closes (closing m hm)) o
    rw [← sum o, (h.phased.drained unbroken (stopped o)).2, nothing, List.append_nil,
      List.append_nil]
  exact all ▸ woven

end Short

/-! ## Sessions end -/

/-- What is left to do for a message. -/
def size : Message → Nat
  | .frame f => 1 + 2 * f.bytes.length
  | _ => 1

/-- What is left to do for messages. -/
def sizes : List Message → Nat
  | [] => 0
  | m :: ms => size m + sizes ms

theorem sizes_append (ms ns : List Message) : sizes (ms ++ ns) = sizes ms + sizes ns := by
  induction ms with
  | nil => exact (Nat.zero_add _).symm
  | cons m ms ih =>
    show size m + sizes (ms ++ ns) = size m + sizes ms + sizes ns
    omega

/-- How many phases are to come. -/
def phases : Phase → Nat
  | .writing _ => 3
  | .waiting => 2
  | .draining _ => 1
  | .returned _ | .broken => 0

/-- How many steps the session can take at most. -/
def weight (t : Transfer) : Nat :=
  phases t.phase + 2 * t.phase.left.length + t.stdin.length +
    (sizes t.incoming + sizes t.unsent + t.unsent.length) +
    ((t.pipes .out).length + (t.pipes .err).length) +
    ((t.relaying .out).toNat + (t.relaying .err).toNat) + (if t.ended = none then 1 else 0)

theorem weight_own {room : Nat} (step : Own room t t') : weight t' < weight t := by
  cases step with
  | @write left n writing live some there fits =>
    simp only [weight, writing, Phase.left, phases, List.length_append, List.length_drop,
      List.length_take]
    omega
  | @refused left writing more gone =>
    have : 0 < left.length := List.length_pos_of_ne_nil more
    simp only [weight, writing, Phase.left, phases, List.length_nil, Bool.toNat_false]
    omega
  | flush written =>
    simp only [weight, written, Phase.left, phases]
    omega
  | resolve waiting told =>
    simp only [weight, waiting, Phase.left, phases]
    omega
  | @relay o n active some most there =>
    cases o <;> simp [weight] <;> omega
  | @stop o active drained gone =>
    cases o <;> simp [weight, active]
  | finish draining stopped gone =>
    simp only [weight, draining, Phase.left, phases]
    omega

theorem size_pos (m : Message) : 0 < size m := by
  cases m <;> simp only [size] <;> omega

theorem weight_wire {room limit : Nat} {fault : String} (step : Wire room limit fault t t') :
    weight t' < weight t := by
  cases step with
  | send live some there =>
    simp only [weight, List.length_drop]
    omega
  | @deliver f ms o n taken carried some there fits =>
    cases o <;> simp [weight, taken.next, sizes, size] <;> omega
  | @pass f ms taken =>
    have := size_pos (.frame f)
    simp only [weight, taken.next, sizes]
    omega
  | skip taken | status taken =>
    simp only [weight, taken.next, sizes, size]
    omega
  | undecodable taken | close taken | lost taken =>
    simp only [weight, taken.next, taken.live, sizes, size, reduceCtorEq, if_true, if_false]
    omega
  | tooLong live | leave live | hangUp live =>
    simp only [weight, live, reduceCtorEq, if_true, if_false]
    omega

theorem weight_step (step : Step lib enough t t') : weight t' < weight t := by
  cases step with
  | own step => exact weight_own step
  | wire step => exact weight_wire (lib.sound step)
  | serve step =>
    cases step with
    | @emit m ms next =>
      simp only [weight, next, sizes_append, sizes, List.length_cons]
      omega

/-- No session goes on forever. -/
theorem wellFounded_step (lib : Library) (enough : List UInt8 → Prop) :
    WellFounded fun t' t => Step lib enough t t' :=
  Subrelation.wf weight_step (measure weight).wf

/-! ## Sessions do not get stuck -/

section Progress

variable {room limit : Nat} {fault : String}

/-- Output that waits in a pipe can be read. -/
theorem exists_own_of_pipe {o : Output} (active : t.relaying o = true) (some : t.pipes o ≠ []) :
    ∃ t', Own room t t' :=
  ⟨_, .relay active (n := 1) Nat.one_pos (by decide) (List.length_pos_of_ne_nil some)⟩

/-- A relay that goes on after the end of the connection can read or stop. -/
theorem exists_own_of_ended {o : Output} (active : t.relaying o = true) (gone : t.ended ≠ none) :
    ∃ t', Own room t t' := by
  by_cases drained : t.pipes o = []
  · exact ⟨_, .stop active drained gone⟩
  · exact exists_own_of_pipe active drained

theorem exists_wire_of_stdin (live : t.ended = none) (some : t.stdin ≠ []) :
    ∃ t', Wire room limit fault t t' :=
  ⟨_, .send live (n := 1) Nat.one_pos (List.length_pos_of_ne_nil some)⟩

/-- The first message can be handled if there is room in the pipes. -/
theorem exists_wire_of_message {m : Message} {ms : List Message} (roomy : 0 < room)
    (live : t.ended = none) (next : t.incoming = m :: ms) (free : ∀ o, t.pipes o = []) :
    ∃ t', Wire room limit fault t t' := by
  by_cases long : limit < m.length
  · exact ⟨_, .tooLong live next long⟩
  have taken : Takes limit t m ms := ⟨live, next, Nat.not_lt.1 long⟩
  cases m with
  | frame f =>
    by_cases empty : f.bytes = []
    · exact ⟨_, .pass taken (.inl empty)⟩
    · by_cases carried : ∃ o : Output, f.channel = o.channel
      · obtain ⟨o, carried⟩ := carried
        have fits : (t.pipes o).length + 1 ≤ room := by
          rw [free o]
          exact roomy
        exact ⟨_, .deliver taken carried Nat.one_pos (List.length_pos_of_ne_nil empty) fits⟩
      · exact ⟨_, .pass taken (.inr fun o h => carried ⟨o, h⟩)⟩
  | status text =>
    by_cases content : text = some ""
    · subst content
      exact ⟨_, .skip taken⟩
    · cases decoded : text.bind Session.status? with
      | none => exact ⟨_, .undecodable taken content decoded⟩
      | some v =>
        obtain ⟨text, rfl, decodes⟩ := Option.bind_eq_some_iff.1 decoded
        exact ⟨_, .status taken (fun h => content (congrArg some h)) decodes⟩
  | close => exact ⟨_, .close taken⟩
  | lost => exact ⟨_, .lost taken⟩

/-- Input that is to be written can be written or is refused, unless the pipe is full. -/
theorem exists_own_of_left {left : List UInt8} (roomy : 0 < room) (phase : t.phase = .writing left)
    (more : left ≠ []) (fits : t.ended = none → t.stdin = []) : ∃ t', Own room t t' := by
  by_cases live : t.ended = none
  · have space : t.stdin.length + 1 ≤ room := by
      rw [fits live]
      exact roomy
    exact ⟨_, .write phase live Nat.one_pos (List.length_pos_of_ne_nil more) space⟩
  · exact ⟨_, .refused phase more live⟩

/-- If the caller and its relays can do nothing, the session is over or somebody else can do
something. -/
theorem Kept.exists_wire_or_serve (h : Kept lib enough input sent t) (whole : enough input)
    (roomy : 0 < room) (stuck : ¬ ∃ t', Own room t t') :
    (∃ r, t.phase.result? = some r) ∨ (∃ t', Wire room limit fault t t') ∨
      ∃ t', Serve enough t t' := by
  -- What the caller waits for is different in each phase: room for its input, a status, an end.
  cases phase : t.phase with
  | returned r => exact .inl ⟨r, rfl⟩
  | broken => exact .inl ⟨_, rfl⟩
  | writing left =>
    by_cases more : left = []
    · exact absurd ⟨_, .flush (more ▸ phase)⟩ stuck
    · have full : ¬ (t.ended = none → t.stdin = []) := fun fits =>
        stuck (exists_own_of_left roomy phase more fits)
      obtain ⟨live, some⟩ := Classical.not_imp.1 full
      exact .inr (.inl (exists_wire_of_stdin live some))
  | waiting =>
    have untold : ¬ t.Told := fun told => stuck ⟨_, .resolve phase told⟩
    have live : t.ended = none := by_contra fun gone => untold (.inr gone)
    by_cases some : t.stdin = []
    · have complete : t.received = input := by
        rw [← h.input.sum (by rw [phase]; exact Phase.noConfusion), some, phase]
        simp [Phase.left]
      cases next : t.incoming with
      | nil =>
        obtain ⟨m, hm, -⟩ := h.foreseen.closes live
        rw [rest, next, List.nil_append] at hm
        obtain ⟨first, ms, unsent⟩ := List.exists_cons_of_ne_nil (List.ne_nil_of_mem hm)
        exact .inr (.inr ⟨_, .emit unsent (.inr (complete ▸ whole))⟩)
      | cons m ms =>
        have free : ∀ o, t.pipes o = [] := by
          intro o
          have active := Bool.of_not_eq_false ((h.phased.lasting live).1 o)
          by_contra pending
          exact stuck (exists_own_of_pipe active pending)
        exact .inr (.inl (exists_wire_of_message roomy live next free))
    · exact .inr (.inl (exists_wire_of_stdin live some))
  | draining status =>
    cases ended : t.ended with
    | none =>
      have told : t.status ≠ none :=
        (h.phased.resolved status phase).2.resolve_right fun gone => gone ended
      exact .inr (.inl ⟨_, .leave ended told⟩)
    | some e =>
      have stopped : ∀ o, t.relaying o = false := by
        intro o
        by_contra active
        have gone : t.ended ≠ none := by
          rw [ended]
          exact Option.some_ne_none e
        exact stuck (exists_own_of_ended (Bool.of_not_eq_false active) gone)
      exact absurd ⟨_, .finish phase stopped ended⟩ stuck

/-- A session that has not come to its end goes on, if the server has enough when it has the whole
input. -/
theorem Kept.exists_step (h : Kept lib enough input sent t) (whole : enough input) :
    (∃ r, t.phase.result? = some r) ∨ ∃ t', Step lib enough t t' := by
  by_cases stuck : ∃ t', Own lib.room t t'
  · obtain ⟨t', own⟩ := stuck
    exact .inr ⟨t', .own own⟩
  · rcases h.exists_wire_or_serve whole lib.roomy stuck with ended | ⟨t', wire⟩ | ⟨t', serve⟩
    · exact .inl ended
    · obtain ⟨t'', step⟩ := lib.live wire (not_exists.1 stuck)
      exact .inr ⟨t'', .wire step⟩
    · exact .inr ⟨t', .serve serve⟩

theorem Kept.run (h : Kept lib enough input sent t) (run : Run lib enough t t') :
    Kept lib enough input sent t' := by
  induction run with
  | refl => exact h
  | tail _ step ih => exact ih.step step

/-- Every session can be brought to its end. -/
theorem Kept.exists_over (h : Kept lib enough input sent t) (whole : enough input) :
    ∃ t' r, Run lib enough t t' ∧ t'.phase.result? = some r := by
  induction t using (wellFounded_step lib enough).induction with
  | _ t ih =>
    rcases h.exists_step whole with ⟨r, came⟩ | ⟨t', step⟩
    · exact ⟨t, r, .refl, came⟩
    · obtain ⟨t'', r, run, came⟩ := ih t' step (h.step step)
      exact ⟨t'', r, .head step run, came⟩

end Progress

end Transfer

end PodRunner.Api
