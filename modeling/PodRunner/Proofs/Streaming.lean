import Mathlib.Data.List.Basic
import PodRunner.Api.Streaming

/-!
# What a session preserves

Every step of a session keeps four things (`Transfer.Kept.step`).  The input is what the server has,
what is on its way and what is left to write; some of it is lost only if writing was refused
(`Transfer.InputKept`).  The trace is an interleaving of what has been read of the two outputs, and
of each output this, its pipe and what the server still sends are what the server sends in all
(`Transfer.OutputKept`).  What is known of the status and of the end of the session is what its
messages come to (`Transfer.Foreseen`).  And the caller and its relays go by what is known
(`Transfer.Phased`).
-/

namespace PodRunner.Api

/-! ## Interleavings -/

/-- The third list is made of the first two, each in its order. -/
inductive Interleave {α : Type} : List α → List α → List α → Prop where
  | nil : Interleave [] [] []
  | left {x xs ys zs} (h : Interleave xs ys zs) : Interleave (x :: xs) ys (x :: zs)
  | right {y xs ys zs} (h : Interleave xs ys zs) : Interleave xs (y :: ys) (y :: zs)

namespace Interleave

variable {α : Type} {xs ys zs : List α}

theorem all_left (xs : List α) : Interleave xs [] xs := by
  induction xs with
  | nil => exact .nil
  | cons x xs ih => exact .left ih

theorem all_right (ys : List α) : Interleave [] ys ys := by
  induction ys with
  | nil => exact .nil
  | cons y ys ih => exact .right ih

theorem append_left (h : Interleave xs ys zs) (more : List α) :
    Interleave (xs ++ more) ys (zs ++ more) := by
  induction h with
  | nil => exact all_left more
  | left _ ih => exact .left ih
  | right _ ih => exact .right ih

theorem append_right (h : Interleave xs ys zs) (more : List α) :
    Interleave xs (ys ++ more) (zs ++ more) := by
  induction h with
  | nil => exact all_right more
  | left _ ih => exact .left ih
  | right _ ih => exact .right ih

end Interleave

/-- The list is made of what each output has, each in its order. -/
def Woven (read : Output → List UInt8) (trace : List UInt8) : Prop :=
  Interleave (read .out) (read .err) trace

theorem Woven.append {read : Output → List UInt8} {trace : List UInt8} (h : Woven read trace)
    (o : Output) (more : List UInt8) :
    Woven (Function.update read o (read o ++ more)) (trace ++ more) := by
  cases o with
  | out => simpa [Woven, Function.update_of_ne] using h.append_left more
  | err => simpa [Woven, Function.update_of_ne] using h.append_right more

/-! ## Payloads -/

@[simp] theorem payload_nil (o : Output) : payload o [] = [] := rfl

@[simp] theorem payload_cons (o : Output) (m : Message) (ms : List Message) :
    payload o (m :: ms) = m.payload o ++ payload o ms := rfl

@[simp] theorem payload_append (o : Output) (ms ns : List Message) :
    payload o (ms ++ ns) = payload o ms ++ payload o ns := List.flatMap_append

theorem payload_eq_nil {ms : List Message} (frameless : ∀ m ∈ ms, m.isFrame = false)
    (o : Output) : payload o ms = [] := by
  rw [payload, List.flatMap_eq_nil_iff]
  intro m hm
  have := frameless m hm
  cases m with
  | frame => cases this
  | status | close | lost => rfl

theorem Output.channel_injective : Function.Injective Output.channel := by
  intro o o' h
  cases o <;> cases o' <;> first | rfl | cases h

/-- A frame that is shortened by what went to a pipe. -/
theorem payload_shortened {f : Frame} {o : Output} (carried : f.channel = o.channel) (n : Nat)
    (o' : Output) :
    (Message.frame f).payload o' =
      (if o' = o then f.bytes.take n else []) ++
        (Message.frame { f with bytes := f.bytes.drop n }).payload o' := by
  by_cases same : o' = o
  · subst same
    simp [Message.payload, carried]
  · have other : f.channel ≠ o'.channel := fun h =>
      same (Output.channel_injective (h.symm.trans carried))
    simp [Message.payload, same, other]

theorem Message.isFrame_of_closes {m : Message} (h : m.closes = true) : m.isFrame = false := by
  cases m with
  | close | lost => rfl
  | frame | status => cases h

namespace Transfer

variable {lib : Library} {enough : List UInt8 → Prop} {input : List UInt8} {sent : List Message}
variable {t t' : Transfer}

/-- The messages that the connection has not handled. -/
def rest (t : Transfer) : List Message := t.incoming ++ t.unsent

theorem rest_of_next {m : Message} {ms : List Message} (next : t.incoming = m :: ms) :
    t.rest = m :: (ms ++ t.unsent) := by
  rw [rest, next]
  rfl

/-! ## Invariants -/

/-- The input is what the server has, what is on its way, and what is left to write; if writing was
refused, something is lost instead. -/
def InputKept (input : List UInt8) (t : Transfer) : Prop :=
  ∃ left, t.received ++ t.stdin ++ left = input ∧
    (t.phase ≠ .broken → left = t.phase.left) ∧ (t.phase = .broken → left ≠ [])

/-- The trace is woven from what was read of the outputs, and each output is what was read of it,
what is in its pipe, and what is to come. -/
def OutputKept (sent : List Message) (t : Transfer) : Prop :=
  ∃ read : Output → List UInt8, Woven read t.trace ∧
    ∀ o, read o ++ t.pipes o ++ payload o t.rest = payload o sent

/-- There is a status, or there can be none any more. -/
def Told (t : Transfer) : Prop := t.status ≠ none ∨ t.ended ≠ none

/-- The server has had enough of the input. -/
def Answered (enough : List UInt8 → Prop) (t : Transfer) : Prop :=
  ∃ part, part <+: t.received ∧ enough part

/-- All messages were handled, but for ends, and the server has had enough of the input. -/
structure Settled (enough : List UInt8 → Prop) (t : Transfer) : Prop where
  closing : ∀ m ∈ t.rest, m.closes = true
  answered : t.Answered enough

/-- The session has ended without a status at a message that is too long. -/
structure Choked (limit : Nat) (t : Transfer) : Prop where
  untold : t.status = none
  long : ∃ m ∈ t.rest, limit < m.length

/-- What a session comes to whose messages are these. -/
def verdict (limit : Nat) (fault : String) : List Message → Except ClusterError Unit
  | [] => outcome none (.ok ())
  | m :: ms =>
    if limit < m.length then outcome none (.error fault)
    else
      match m with
      | .frame _ => verdict limit fault ms
      | .close => outcome none (.ok ())
      | .lost => outcome none (.error fault)
      | .status text =>
        if text = some "" then verdict limit fault ms
        else
          match text.bind Session.status? with
          | some status => status.result
          | none => outcome none (.error fault)

/-- What the session will come to. -/
def fate (lib : Library) (t : Transfer) : Except ClusterError Unit :=
  match t.status, t.ended with
  | some status, _ => status.result
  | none, some e => outcome none e
  | none, none => verdict lib.limit lib.fault t.rest

/-- What is known of the messages and of what was told of them, if these are all messages. -/
structure Foreseen (lib : Library) (enough : List UInt8 → Prop) (sent : List Message)
    (t : Transfer) : Prop where
  /-- Behind a message that is no frame there are ends only. -/
  ordered : t.rest.Pairwise fun m m' => m.isFrame = true ∨ m'.closes = true
  short : (∀ m ∈ sent, m.length ≤ lib.limit) → ∀ m ∈ t.rest, m.length ≤ lib.limit
  served : ∀ m ∈ t.incoming, m.isFrame = false → t.Answered enough
  settled : t.Told → t.Settled enough ∨ t.Choked lib.limit
  fate : t.fate lib = verdict lib.limit lib.fault sent
  closes : t.ended = none → ∃ m ∈ t.rest, m.closes = true

/-- What is known of the caller and its relays. -/
structure Phased (t : Transfer) : Prop where
  resolved : ∀ status, t.phase = .draining status → status = t.status ∧ t.Told
  stopped : ∀ o, t.relaying o = false → t.ended ≠ none ∧ (t.phase = .broken ∨ t.pipes o = [])
  returned : ∀ r, t.phase = .returned r →
    (∀ o, t.relaying o = false) ∧ ∃ e, t.ended = some e ∧ r = outcome t.status e
  broken : t.phase = .broken → t.ended ≠ none

/-- All that every step keeps. -/
structure Kept (lib : Library) (enough : List UInt8 → Prop) (input : List UInt8)
    (sent : List Message) (t : Transfer) : Prop where
  input : InputKept input t
  output : OutputKept sent t
  foreseen : Foreseen lib enough sent t
  phased : Phased t

/-! ## Input -/

theorem InputKept.received_prefix (h : InputKept input t) : t.received <+: input := by
  obtain ⟨left, sum, -⟩ := h
  exact ⟨t.stdin ++ left, (List.append_assoc ..).symm.trans sum⟩

/-- As long as writing was not refused, nothing is lost. -/
theorem InputKept.sum (h : InputKept input t) (unbroken : t.phase ≠ .broken) :
    t.received ++ t.stdin ++ t.phase.left = input := by
  obtain ⟨left, sum, kept, -⟩ := h
  rw [← kept unbroken]
  exact sum

/-- The server does not have all of the input if writing was refused. -/
theorem InputKept.received_ne (h : InputKept input t) (broken : t.phase = .broken) :
    t.received ≠ input := by
  obtain ⟨left, sum, -, lost⟩ := h
  intro complete
  have length := congrArg List.length sum
  rw [List.length_append, List.length_append, complete] at length
  exact lost broken (List.eq_nil_of_length_eq_zero (by omega))

/-- The caller goes on when its writing is done. -/
theorem InputKept.next {phase : Phase} (h : InputKept input t) (unbroken : t.phase ≠ .broken)
    (written : t.phase.left = []) (quiet : phase.left = []) (still : phase ≠ .broken) :
    InputKept input { t with phase } := by
  refine ⟨[], ?_, fun _ => quiet.symm, fun broken => absurd broken still⟩
  rw [← h.sum unbroken, written]

theorem InputKept.own {room : Nat} (h : InputKept input t) (step : Own room t t') :
    InputKept input t' := by
  cases step with
  | @write left n writing =>
    have sum := h.sum (by rw [writing]; exact Phase.noConfusion)
    rw [writing] at sum
    refine ⟨left.drop n, ?_, fun _ => rfl, fun broken => by cases broken⟩
    rw [← sum]
    simp [Phase.left, List.append_assoc]
  | @refused left writing more =>
    have sum := h.sum (by rw [writing]; exact Phase.noConfusion)
    rw [writing] at sum
    exact ⟨left, sum, fun unbroken => absurd rfl unbroken, fun _ => more⟩
  | flush written =>
    exact h.next (by rw [written]; exact Phase.noConfusion) (by rw [written]; rfl) rfl
      Phase.noConfusion
  | resolve waiting =>
    exact h.next (by rw [waiting]; exact Phase.noConfusion) (by rw [waiting]; rfl) rfl
      Phase.noConfusion
  | finish draining =>
    exact h.next (by rw [draining]; exact Phase.noConfusion) (by rw [draining]; rfl) rfl
      Phase.noConfusion
  | relay | stop => exact h

theorem InputKept.step (h : InputKept input t) (step : Step lib enough t t') :
    InputKept input t' := by
  cases step with
  | own step => exact h.own step
  | wire step =>
    cases lib.sound step with
    | @send n =>
      obtain ⟨left, sum, kept⟩ := h
      refine ⟨left, ?_, kept⟩
      rw [← sum]
      simp [List.append_assoc]
    | _ => exact h
  | serve step =>
    cases step
    exact h

/-! ## Output -/

/-- A message is handled that carries nothing. -/
theorem OutputKept.pop {m : Message} {ms : List Message} {status : Option ExecStatus}
    {ended : Option (Except String Unit)} (h : OutputKept sent t)
    (next : t.incoming = m :: ms) (empty : ∀ o, m.payload o = []) :
    OutputKept sent { t with incoming := ms, status, ended } := by
  obtain ⟨read, woven, sum⟩ := h
  refine ⟨read, woven, fun o => ?_⟩
  rw [← sum o, rest_of_next next, payload_cons, empty o]
  rfl

theorem OutputKept.deliver {f : Frame} {ms : List Message} {o : Output} (n : Nat)
    (h : OutputKept sent t) (next : t.incoming = .frame f :: ms)
    (carried : f.channel = o.channel) :
    OutputKept sent { t with
      incoming := .frame { f with bytes := f.bytes.drop n } :: ms
      pipes := Function.update t.pipes o (t.pipes o ++ f.bytes.take n) } := by
  obtain ⟨read, woven, sum⟩ := h
  refine ⟨read, woven, fun o' => ?_⟩
  rw [← sum o', rest_of_next next, payload_cons, payload_shortened carried n]
  by_cases same : o' = o
  · subst same
    simp [rest]
  · simp [rest, same]

theorem OutputKept.relay {o : Output} (n : Nat) (h : OutputKept sent t) :
    OutputKept sent { t with
      pipes := Function.update t.pipes o ((t.pipes o).drop n)
      trace := t.trace ++ (t.pipes o).take n } := by
  obtain ⟨read, woven, sum⟩ := h
  refine ⟨_, woven.append o ((t.pipes o).take n), fun o' => ?_⟩
  rw [← sum o']
  by_cases same : o' = o
  · subst same
    simp [rest]
  · simp [rest, same]

theorem payload_of_idle {f : Frame} (idle : f.bytes = [] ∨ ∀ o : Output, f.channel ≠ o.channel)
    (o : Output) : (Message.frame f).payload o = [] := by
  rcases idle with empty | other
  · simp [Message.payload, empty]
  · simp [Message.payload, other o]

theorem OutputKept.step (h : OutputKept sent t) (step : Step lib enough t t') :
    OutputKept sent t' := by
  cases step with
  | own step =>
    cases step with
    | @relay o n => exact h.relay n
    | write | refused | flush | resolve | stop | finish => exact h
  | wire step =>
    cases lib.sound step with
    | @deliver f ms o n taken carried => exact h.deliver n taken.next carried
    | pass taken idle => exact h.pop taken.next (payload_of_idle idle)
    | skip taken | status taken | undecodable taken | close taken | lost taken =>
      exact h.pop taken.next fun _ => rfl
    | send | tooLong | leave | hangUp => exact h
  | serve step =>
    cases step with
    | emit next =>
      obtain ⟨read, woven, sum⟩ := h
      refine ⟨read, woven, fun o => ?_⟩
      rw [← sum o, rest, rest, next]
      simp

/-- The trace is made of beginnings of the outputs. -/
theorem OutputKept.exists_woven (h : OutputKept sent t) :
    ∃ read : Output → List UInt8, (∀ o, read o <+: payload o sent) ∧ Woven read t.trace := by
  obtain ⟨read, woven, sum⟩ := h
  exact ⟨read, fun o => ⟨_, (List.append_assoc ..).symm.trans (sum o)⟩, woven⟩

/-! ## Messages -/

section Messages

variable {fault : String} {m : Message} {ms : List Message}

theorem Answered.mono {more : List UInt8} (h : t.Answered enough) :
    { t with received := t.received ++ more }.Answered enough := by
  obtain ⟨part, begun, had⟩ := h
  exact ⟨part, begun.trans (List.prefix_append ..), had⟩

theorem verdict_of_long {limit : Nat} (long : limit < m.length) :
    verdict limit fault (m :: ms) = outcome none (.error fault) := by
  rw [verdict.eq_def]
  exact if_pos long

theorem verdict_frame {limit : Nat} {f : Frame} (small : (Message.frame f).length ≤ limit) :
    verdict limit fault (.frame f :: ms) = verdict limit fault ms := by
  rw [verdict, if_neg (Nat.not_lt.2 small)]

/-- A status decides, whatever comes after it. -/
theorem fate_of_status {status : ExecStatus} (known : t.status = some status) :
    t.fate lib = status.result := by
  rw [Transfer.fate, known]

/-- As soon as there is a status, everything was handled. -/
theorem Foreseen.settled_of_status (h : Foreseen lib enough sent t) (told : t.status ≠ none) :
    t.Settled enough :=
  (h.settled (.inl told)).resolve_right fun choked => told choked.untold

/-- As long as a message is to be handled that is no end, there was no status. -/
theorem Foreseen.status_eq_none (h : Foreseen lib enough sent t)
    (next : t.incoming = m :: ms) (mid : m.closes = false) : t.status = none := by
  by_contra told
  have := (h.settled_of_status told).closing m (by rw [rest_of_next next]; exact List.mem_cons_self)
  rw [mid] at this
  cases this

/-- A message that is handled before there was a status decides what the session comes to. -/
theorem Foreseen.verdict_eq (h : Foreseen lib enough sent t) (live : t.ended = none)
    (next : t.incoming = m :: ms) (quiet : t.status = none) :
    verdict lib.limit lib.fault (m :: (ms ++ t.unsent)) = verdict lib.limit lib.fault sent := by
  rw [← rest_of_next next, ← h.fate, Transfer.fate, quiet, live]

/-- A message is handled; if there is a status or an end afterwards, it was no frame. -/
theorem Foreseen.pop {status : Option ExecStatus} {ended : Option (Except String Unit)}
    (h : Foreseen lib enough sent t) (taken : Takes lib.limit t m ms)
    (tells : status ≠ none ∨ ended ≠ none → m.isFrame = false)
    (fate : { t with incoming := ms, status, ended }.fate lib =
      verdict lib.limit lib.fault sent)
    (stays : ended = none → m.closes = false) :
    Foreseen lib enough sent { t with incoming := ms, status, ended } := by
  obtain ⟨live, next, -⟩ := taken
  have ordered := h.ordered
  rw [rest_of_next next, List.pairwise_cons] at ordered
  refine ⟨ordered.2, fun small m' hm' => ?_, fun m' hm' => ?_,
    fun told => .inl ⟨fun m' hm' => ?_, ?_⟩, fate, fun still => ?_⟩
  · refine h.short small m' ?_
    rw [rest_of_next next]
    exact List.mem_cons_of_mem _ hm'
  · exact h.served m' (next ▸ List.mem_cons_of_mem _ hm')
  · refine (ordered.1 m' hm').resolve_left ?_
    rw [tells told]
    exact Bool.false_ne_true
  · exact h.served m (next ▸ List.mem_cons_self) (tells told)
  · obtain ⟨m', hm', ends⟩ := h.closes live
    rw [rest_of_next next] at hm'
    rcases List.mem_cons.1 hm' with rfl | hm'
    · rw [stays still] at ends
      cases ends
    · exact ⟨m', hm', ends⟩

/-- A message is handled that decides nothing. -/
theorem Foreseen.ignore (h : Foreseen lib enough sent t) (taken : Takes lib.limit t m ms)
    (mid : m.closes = false)
    (same : verdict lib.limit lib.fault (m :: (ms ++ t.unsent)) =
      verdict lib.limit lib.fault (ms ++ t.unsent)) :
    Foreseen lib enough sent { t with incoming := ms } := by
  have quiet := h.status_eq_none taken.next mid
  refine h.pop taken (fun told => ?_) ?_ fun _ => mid
  · rcases told with told | told
    · exact absurd quiet told
    · exact absurd taken.live told
  · rw [Transfer.fate]
    simp only [quiet, taken.live]
    exact same.symm.trans (h.verdict_eq taken.live taken.next quiet)

/-- A message that ends the session is handled. -/
theorem Foreseen.closed {e : Except String Unit} (h : Foreseen lib enough sent t)
    (taken : Takes lib.limit t m ms) (ends : m.closes = true)
    (decides : verdict lib.limit lib.fault (m :: (ms ++ t.unsent)) = outcome none e) :
    Foreseen lib enough sent { t with incoming := ms, ended := some e } := by
  refine h.pop taken (fun _ => Message.isFrame_of_closes ends) ?_ fun h => by cases h
  cases told : t.status with
  | none => exact decides.symm.trans (h.verdict_eq taken.live taken.next told)
  | some status =>
    exact (fate_of_status rfl).trans ((fate_of_status told).symm.trans h.fate)

/-- The connection ends after a status. -/
theorem Foreseen.leave {e : Except String Unit} (h : Foreseen lib enough sent t)
    (told : t.status ≠ none) : Foreseen lib enough sent { t with ended := some e } := by
  obtain ⟨status, known⟩ := Option.ne_none_iff_exists'.1 told
  have settled := h.settled_of_status told
  refine ⟨h.ordered, h.short, h.served, fun _ => .inl ⟨settled.closing, settled.answered⟩, ?_,
    fun still => by cases still⟩
  have same : { t with ended := some e }.fate lib = status.result := fate_of_status known
  exact same.trans ((fate_of_status known).symm.trans h.fate)

/-- The connection ends at a message that is too long. -/
theorem Foreseen.choke (h : Foreseen lib enough sent t) (live : t.ended = none)
    (next : t.incoming = m :: ms) (long : lib.limit < m.length) :
    Foreseen lib enough sent { t with ended := some (.error lib.fault) } := by
  by_cases quiet : t.status = none
  · have promise := h.verdict_eq live next quiet
    rw [verdict_of_long long] at promise
    have there : m ∈ t.rest := by rw [rest_of_next next]; exact List.mem_cons_self
    refine ⟨h.ordered, h.short, h.served, fun _ => .inr ⟨quiet, m, there, long⟩, ?_,
      fun still => by cases still⟩
    rw [Transfer.fate]
    simp only [quiet]
    exact promise
  · exact h.leave quiet

theorem Foreseen.deliver {f : Frame} {pipes : Output → List UInt8} (n : Nat)
    (h : Foreseen lib enough sent t) (taken : Takes lib.limit t (.frame f) ms) :
    Foreseen lib enough sent { t with
      incoming := .frame { f with bytes := f.bytes.drop n } :: ms, pipes } := by
  obtain ⟨live, next, small⟩ := taken
  have quiet := h.status_eq_none next rfl
  have ordered := h.ordered
  rw [rest_of_next next, List.pairwise_cons] at ordered
  have smaller : (Message.frame { f with bytes := f.bytes.drop n }).length ≤ lib.limit := by
    refine Nat.le_trans (Nat.succ_le_succ ?_) small
    rw [List.length_drop]
    exact Nat.sub_le ..
  refine ⟨List.pairwise_cons.2 ⟨fun _ _ => .inl rfl, ordered.2⟩, fun all m hm => ?_,
    fun m hm last => ?_, fun told => ?_, ?_, fun _ => ?_⟩
  · rcases List.mem_cons.1 hm with rfl | hm
    · exact smaller
    · refine h.short all m ?_
      rw [rest_of_next next]
      exact List.mem_cons_of_mem _ hm
  · rcases List.mem_cons.1 hm with rfl | hm
    · cases last
    · exact h.served m (next ▸ List.mem_cons_of_mem _ hm) last
  · rcases told with told | told
    · exact absurd quiet told
    · exact absurd live told
  · have promise := h.verdict_eq live next quiet
    rw [verdict_frame small] at promise
    rw [Transfer.fate]
    simp only [quiet, live]
    exact (verdict_frame smaller).trans promise
  · obtain ⟨m, hm, ends⟩ := h.closes live
    rw [rest_of_next next] at hm
    rcases List.mem_cons.1 hm with rfl | hm
    · cases ends
    · exact ⟨m, List.mem_cons_of_mem _ hm, ends⟩

theorem Foreseen.wire (h : Foreseen lib enough sent t) (phased : Phased t)
    (step : Wire lib.room lib.limit lib.fault t t') : Foreseen lib enough sent t' := by
  cases step with
  | send =>
    refine ⟨h.ordered, h.short, fun m hm last => (h.served m hm last).mono, fun told => ?_, h.fate,
      h.closes⟩
    exact (h.settled told).imp (fun settled => ⟨settled.closing, settled.answered.mono⟩)
      fun choked => ⟨choked.untold, choked.long⟩
  | @deliver f ms o n taken => exact h.deliver n taken
  | pass taken => exact h.ignore taken rfl (verdict_frame taken.short)
  | skip taken =>
    refine h.ignore taken rfl ?_
    rw [verdict, if_neg (Nat.not_lt.2 taken.short)]
    exact if_pos rfl
  | @status text v ms taken content decodes =>
    have quiet := h.status_eq_none taken.next rfl
    refine h.pop taken (fun _ => rfl) ?_ fun _ => rfl
    have promise := h.verdict_eq taken.live taken.next quiet
    rw [verdict, if_neg (Nat.not_lt.2 taken.short)] at promise
    simp only [Option.some.injEq, content, if_false, Option.bind_some, decodes] at promise
    exact promise
  | @undecodable text ms taken content fails =>
    have quiet := h.status_eq_none taken.next rfl
    refine h.pop taken (fun _ => rfl) ?_ fun ended => by cases ended
    have promise := h.verdict_eq taken.live taken.next quiet
    rw [verdict, if_neg (Nat.not_lt.2 taken.short)] at promise
    simp only [content, if_false, fails] at promise
    rw [Transfer.fate]
    simp only [quiet]
    exact promise
  | close taken =>
    refine h.closed taken rfl ?_
    rw [verdict, if_neg (Nat.not_lt.2 taken.short)]
  | lost taken =>
    refine h.closed taken rfl ?_
    rw [verdict, if_neg (Nat.not_lt.2 taken.short)]
  | tooLong live next long => exact h.choke live next long
  | leave _ told => exact h.leave told
  | hangUp live closed =>
    refine h.leave ?_
    cases phase : t.phase with
    | writing | waiting => rw [phase] at closed; cases closed
    | draining => exact (phased.resolved _ phase).2.resolve_right fun gone => gone live
    | returned =>
      obtain ⟨-, e, ended, -⟩ := phased.returned _ phase
      rw [live] at ended
      cases ended
    | broken => exact absurd live (phased.broken phase)

theorem Foreseen.emit (h : Foreseen lib enough sent t) (next : t.unsent = m :: ms)
    (ready : m.isFrame = true ∨ enough t.received) :
    Foreseen lib enough sent { t with unsent := ms, incoming := t.incoming ++ [m] } := by
  have same : { t with unsent := ms, incoming := t.incoming ++ [m] }.rest = t.rest := by
    rw [rest, rest, next]
    simp
  refine ⟨same ▸ h.ordered, same ▸ h.short, fun m' hm' last => ?_, fun told => ?_, ?_,
    fun live => ?_⟩
  · rcases List.mem_append.1 hm' with hm' | hm'
    · exact h.served m' hm' last
    · rw [List.mem_singleton.1 hm'] at last
      rw [last] at ready
      exact ⟨t.received, List.prefix_refl _, ready.resolve_left Bool.false_ne_true⟩
  · exact (h.settled told).imp (fun settled => ⟨same ▸ settled.closing, settled.answered⟩)
      fun choked => ⟨choked.untold, same ▸ choked.long⟩
  · have fate := h.fate
    rw [Transfer.fate] at fate ⊢
    rw [same]
    exact fate
  · rw [same]
    exact h.closes live

theorem Foreseen.step (h : Foreseen lib enough sent t) (phased : Phased t)
    (step : Step lib enough t t') : Foreseen lib enough sent t' := by
  cases step with
  | own step =>
    cases step <;> exact ⟨h.ordered, h.short, h.served,
      fun told => (h.settled told).imp (fun settled => ⟨settled.closing, settled.answered⟩)
        fun choked => ⟨choked.untold, choked.long⟩, h.fate, h.closes⟩
  | wire step => exact h.wire phased (lib.sound step)
  | serve step =>
    cases step with
    | emit next ready => exact h.emit next ready

end Messages

/-! ## The caller -/

/-- As long as the connection lasts no relay stops, and the caller neither returns nor gives up. -/
theorem Phased.lasting (h : Phased t) (live : t.ended = none) :
    (∀ o, t.relaying o ≠ false) ∧ (∀ r, t.phase ≠ .returned r) ∧ t.phase ≠ .broken := by
  refine ⟨fun o off => (h.stopped o off).1 live, fun r phase => ?_,
    fun phase => h.broken phase live⟩
  obtain ⟨-, e, ended, -⟩ := h.returned r phase
  rw [live] at ended
  cases ended

/-- If the caller has not given up, its relays have stopped for good reason. -/
theorem Phased.drained (h : Phased t) (unbroken : t.phase ≠ .broken) {o : Output}
    (off : t.relaying o = false) : t.ended ≠ none ∧ t.pipes o = [] :=
  ⟨(h.stopped o off).1, (h.stopped o off).2.resolve_left unbroken⟩

theorem Phased.own {room : Nat} (h : Phased t) (step : Own room t t') : Phased t' := by
  cases step with
  | write writing live =>
    exact ⟨fun _ phase => (by cases phase), fun o off => absurd off ((h.lasting live).1 o),
      fun _ phase => (by cases phase), fun phase => (by cases phase)⟩
  | refused writing more gone =>
    exact ⟨fun _ phase => (by cases phase), fun _ _ => ⟨gone, .inl rfl⟩,
      fun _ phase => (by cases phase), fun _ => gone⟩
  | flush written =>
    have unbroken : t.phase ≠ .broken := by rw [written]; exact Phase.noConfusion
    exact ⟨fun _ phase => (by cases phase), fun o off => (h.drained unbroken off).imp_right .inr,
      fun _ phase => (by cases phase), fun phase => (by cases phase)⟩
  | resolve waiting told =>
    have unbroken : t.phase ≠ .broken := by rw [waiting]; exact Phase.noConfusion
    refine ⟨fun status phase => ?_, fun o off => (h.drained unbroken off).imp_right .inr,
      fun _ phase => (by cases phase), fun phase => (by cases phase)⟩
    cases phase
    exact ⟨rfl, told⟩
  | @relay o n active =>
    refine ⟨h.resolved, fun o' off => ?_, h.returned, h.broken⟩
    have other : o' ≠ o := fun same => by
      rw [same, active] at off
      cases off
    exact (h.stopped o' off).imp_right (Or.imp_right (Function.update_of_ne other _ _).trans)
  | @stop o active drained gone =>
    refine ⟨h.resolved, fun o' off => ?_, fun r phase => ?_, h.broken⟩
    · by_cases same : o' = o
      · subst same
        exact ⟨gone, .inr drained⟩
      · exact h.stopped o' ((Function.update_of_ne same _ _).symm.trans off)
    · have off := (h.returned r phase).1 o
      rw [active] at off
      cases off
  | finish draining stopped gone =>
    have unbroken : t.phase ≠ .broken := by rw [draining]; exact Phase.noConfusion
    refine ⟨fun _ phase => (by cases phase), fun o off => (h.drained unbroken off).imp_right .inr,
      fun r phase => ⟨stopped, _, gone, ?_⟩, fun phase => (by cases phase)⟩
    cases phase
    rw [(h.resolved _ draining).1]

/-- The connection ends. -/
theorem Phased.ending {incoming : List Message} {e : Except String Unit} (h : Phased t)
    (live : t.ended = none) : Phased { t with incoming, ended := some e } := by
  refine ⟨fun status phase => ⟨(h.resolved status phase).1, .inr (Option.some_ne_none _)⟩,
    fun o off => absurd off ((h.lasting live).1 o), fun r phase => ?_,
    fun _ => Option.some_ne_none _⟩
  exact absurd phase ((h.lasting live).2.1 r)

theorem Phased.wire {room limit : Nat} {fault : String} (h : Phased t)
    (step : Wire room limit fault t t')
    (first : ∀ m ms, t.incoming = m :: ms → m.closes = false → t.status = none) : Phased t' := by
  cases step with
  | send | pass | skip => exact ⟨h.resolved, h.stopped, h.returned, h.broken⟩
  | deliver taken =>
    exact ⟨h.resolved, fun o off => absurd off ((h.lasting taken.live).1 o), h.returned, h.broken⟩
  | status taken =>
    have quiet := first _ _ taken.next rfl
    refine ⟨fun status phase => ?_, h.stopped, fun r phase => ?returned, h.broken⟩
    case returned => exact absurd phase ((h.lasting taken.live).2.1 r)
    rcases (h.resolved status phase).2 with told | told
    · exact absurd quiet told
    · exact absurd taken.live told
  | undecodable taken | close taken | lost taken =>
    exact h.ending taken.live
  | tooLong live | leave live | hangUp live => exact h.ending live

theorem Phased.step (h : Phased t) (foreseen : Foreseen lib enough sent t)
    (step : Step lib enough t t') : Phased t' := by
  cases step with
  | own step => exact h.own step
  | wire step =>
    exact h.wire (lib.sound step) fun _ _ next => foreseen.status_eq_none next
  | serve step =>
    cases step
    exact ⟨h.resolved, h.stopped, h.returned, h.broken⟩

/-! ## Every session -/

theorem Kept.step (h : Kept lib enough input sent t) (step : Step lib enough t t') :
    Kept lib enough input sent t' where
  input := h.input.step step
  output := h.output.step step
  foreseen := h.foreseen.step h.phased step
  phased := h.phased.step h.foreseen step

theorem kept_start (lib : Library) (enough : List UInt8 → Prop) {s : Session} (script : String)
    (ordered : s.messages.Pairwise fun m m' => m.isFrame = true ∨ m'.closes = true)
    (closes : ∃ m ∈ s.messages, m.closes = true) :
    Kept lib enough (Session.inputBytes script) s.messages (start s script) where
  input := ⟨Session.inputBytes script, rfl, fun _ => rfl, fun broken => by cases broken⟩
  output := ⟨fun _ => [], .nil, fun _ => rfl⟩
  foreseen := by
    refine ⟨ordered, id, fun _ hm => absurd hm List.not_mem_nil, fun told => ?_, rfl,
      fun _ => closes⟩
    rcases told with told | told <;> exact absurd rfl told
  phased := ⟨fun _ h => (by cases h), fun _ h => (by cases h), fun _ h => (by cases h),
    fun h => (by cases h)⟩

end Transfer

end PodRunner.Api
