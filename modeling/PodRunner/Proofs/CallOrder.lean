import PodRunner.Proofs.Ledger
import PodRunner.Proofs.Resolution

/-!
# The order of calls

Which operation makes which calls, in what order and to which pod (`Executor.Orderly`): a step is
started right after a look that found its pod running, in the pod that was created last and that
nobody has deleted since (`Alive`).  Every moment of every history is orderly
(`Executor.calls_orderly`).
-/

namespace PodRunner

namespace Event

/-- The pod that the event looks at or runs a script in. -/
def target? : Event → Option PodRef
  | .state pod _ => some pod
  | .exec pod _ _ => some pod
  | _ => none

def isCreate : Event → Bool
  | .create .. => true
  | _ => false

def isExec : Event → Bool
  | .exec .. => true
  | _ => false

end Event

/-! ## Pods that are alive -/

/-- The pod was created last and nothing was handed to deletion since; all pods before it were. -/
structure Alive (pod : PodRef) (es : List Event) : Prop where
  ledger : created es = deleted es ++ [pod]
  latest : ∃ earlier spec later,
    es = earlier ++ .create spec (some (.ok pod)) :: later ∧ Quiet later

theorem Alive.append {pod : PodRef} {es fs : List Event} (h : Alive pod es) (quiet : Quiet fs) :
    Alive pod (es ++ fs) := by
  refine ⟨?_, ?_⟩
  · rw [created_append, deleted_append, quiet.created_eq_nil, quiet.deleted_eq_nil, h.ledger]
    simp only [List.append_nil]
  · obtain ⟨earlier, spec, later, rfl, hq⟩ := h.latest
    exact ⟨earlier, spec, later ++ fs, List.append_assoc .., hq.append quiet⟩

theorem alive_create {es : List Event} (even : created es = deleted es) (spec : JobPod)
    (pod : PodRef) : Alive pod (es ++ [.create spec (some (.ok pod))]) := by
  refine ⟨?_, es, spec, [], rfl, quiet_nil⟩
  rw [created_append, deleted_append, even]
  exact congrArg (· ++ [pod]) (List.append_nil _).symm

theorem Quiet.of_append {es fs : List Event} (h : Quiet (es ++ fs)) : Quiet es :=
  fun e he => h e (List.mem_append_left _ he)

/-! ## The calls of a step -/

namespace Cluster

variable {pod : PodRef} {request : ExecRequest} {es : List Event}

theorem StepCalls.target {e : Event} (h : StepCalls pod request es) (he : e ∈ es) :
    e.target? = some pod := by
  rcases h with h | ⟨before, s, answer, hl, -, rfl⟩
  · obtain ⟨answer, rfl⟩ := h e he
    rfl
  · simp only [List.mem_append, List.mem_cons, List.not_mem_nil, or_false] at he
    rcases he with he | rfl | rfl
    · obtain ⟨answer, rfl⟩ := hl e he
      rfl
    · rfl
    · rfl

/-- A step asks for its own script only, last of all, right after it has seen its pod running. -/
theorem StepCalls.exec {before after : List Event} {target : PodRef} {asked : ExecRequest}
    {answer : Option (Except ClusterError Unit)} (h : StepCalls pod request es)
    (he : es = before ++ .exec target asked answer :: after) :
    target = pod ∧ asked = request ∧ after = [] ∧
      ∃ earlier s, before = earlier ++ [.state pod (some (.ok s))] ∧ s.phase = .running := by
  rcases h with h | ⟨earlier, s, reply, hl, hs, rfl⟩
  · obtain ⟨look, hlook⟩ := h (.exec target asked answer) (by simp [he])
    cases hlook
  · have unasked : .exec target asked answer ∉ earlier ++ [.state pod (some (.ok s))] := by
      intro hmem
      obtain ⟨look, hlook⟩ := (hl.append (looks_state pod (some (.ok s)))) _ hmem
      cases hlook
    have split : (earlier ++ [.state pod (some (.ok s))]) ++ .exec pod request reply :: [] =
        before ++ .exec target asked answer :: after := by
      rw [← he, List.append_assoc]
      rfl
    obtain ⟨hb, hexec, ha⟩ :=
      (List.append_cons_inj_of_notMem unasked List.not_mem_nil).1 split
    injection hexec with hpod hrequest
    exact ⟨hpod.symm, hrequest.symm, ha.symm, earlier, s, hb.symm, hs⟩

theorem StepCalls.countP_isCreate (h : StepCalls pod request es) :
    es.countP Event.isCreate = 0 := by
  rw [List.countP_eq_zero]
  intro e he
  have := h.target he
  cases e <;> simp [Event.target?, Event.isCreate] at this ⊢

theorem StepCalls.countP_isExec (h : StepCalls pod request es) :
    es.countP Event.isExec ≤ 1 := by
  have looks : ∀ {fs : List Event}, Looks pod fs → fs.countP Event.isExec = 0 := by
    intro fs hl
    rw [List.countP_eq_zero]
    intro e he
    obtain ⟨answer, rfl⟩ := hl e he
    exact Bool.false_ne_true
  rcases h with h | ⟨before, s, answer, hl, -, rfl⟩
  · rw [looks h]
    exact Nat.zero_le 1
  · rw [List.countP_append, looks hl]
    exact Nat.le_refl 1

end Cluster

namespace Executor

/-- The operation may make the call. -/
def Operation.mayCall : Operation → Event → Bool
  | .run .., .create .. | .run .., .state .. | .run .., .exec .. => true
  | .cleanup, .delete .. => true
  | _, _ => false

/-- What the calls `cs` of an operation of the executor `x` must be, after the calls `past`; `last`
is the job that was settled last. -/
structure Orderly (past : List Event) (last : Option (Runner × Job)) (x : Executor)
    (op : Operation) (cs : List Event) : Prop where
  allowed : ∀ e ∈ cs, op.mayCall e = true
  /-- A run creates a pod if a job is prepared and no pod is held, and then once. -/
  creates : ∀ step abort, op = .run step abort →
    cs.countP Event.isCreate = if last.isSome ∧ x.pod = none then 1 else 0
  execs : cs.countP Event.isExec ≤ 1
  /-- A script is started right after a look that found its pod running. -/
  watched : ∀ before pod asked answer after, cs = before ++ .exec pod asked answer :: after →
    ∃ earlier s, before = earlier ++ [.state pod (some (.ok s))] ∧ s.phase = .running
  alive : ∀ before e after pod, cs = before ++ e :: after → e.target? = some pod →
    Alive pod (past ++ before)
  /-- A script goes to the container for it, with the shell of the job that was settled last. -/
  asks : ∀ pod asked answer, .exec pod asked answer ∈ cs →
    ∃ step abort runner job, op = .run step abort ∧ last = some (runner, job) ∧
      asked = ⟨if step.predefined then "helper" else "build", job.shell.command, step.script⟩

variable {past cs : List Event} {last : Option (Runner × Job)} {x y : Executor} {op : Operation}

/-! ## One turn -/

theorem orderly_nil (idle : ∀ step abort, op = .run step abort → last = none) :
    Orderly past last x op [] where
  allowed := by simp
  creates step abort hop := by simp [idle step abort hop]
  execs := Nat.zero_le 1
  watched := by simp
  alive := by simp
  asks := by simp

/-- A single call that neither looks at a pod nor starts a script in one. -/
theorem orderly_single {call : Event} (allowed : op.mayCall call = true)
    (aimless : call.target? = none)
    (creates : ∀ step abort, op = .run step abort →
      [call].countP Event.isCreate = if last.isSome ∧ x.pod = none then 1 else 0) :
    Orderly past last x op [call] where
  allowed e he := List.mem_singleton.1 he ▸ allowed
  creates := creates
  execs := List.countP_le_length
  watched before pod asked answer after h := by
    have : .exec pod asked answer ∈ [call] := by simp [h]
    rw [← List.mem_singleton.1 this] at aimless
    cases aimless
  alive before e after pod h ht := by
    have : e ∈ [call] := by simp [h]
    rw [List.mem_singleton.1 this, aimless] at ht
    cases ht
  asks pod asked answer h := by
    rw [← List.mem_singleton.1 h] at aimless
    cases aimless

theorem request_eq (p : Prepared) (step : Step) :
    request p step =
      ⟨if step.predefined then "helper" else "build", p.job.shell.command, step.script⟩ := by
  unfold request Step.role
  cases step.predefined <;> rfl

/-- The calls of a step in a pod that is alive. -/
theorem orderly_step {step : Step} {abort : Option Nat} {pod : PodRef} {p : Prepared}
    (held : x.pod = some pod) (settled : last = some (p.runner, p.job)) (live : Alive pod past)
    (stepped : Cluster.StepCalls pod (request p step) cs) :
    Orderly past last x (.run step abort) cs where
  allowed e he := by
    have := stepped.target he
    cases e <;> simp [Event.target?, Operation.mayCall] at this ⊢
  creates _ _ _ := by
    rw [stepped.countP_isCreate, if_neg fun h => by simp [held] at h]
  execs := stepped.countP_isExec
  watched before target asked answer after h := by
    obtain ⟨rfl, -, -, looked⟩ := stepped.exec h
    exact looked
  alive before e after target h ht := by
    obtain rfl : pod = target := by
      have := stepped.target (e := e) (by simp [h])
      rw [ht] at this
      exact (Option.some.inj this).symm
    have quiet : Quiet (before ++ e :: after) := h ▸ stepped.quiet
    exact live.append quiet.of_append
  asks target asked answer he := by
    obtain ⟨before, after, h⟩ := List.append_of_mem he
    obtain ⟨-, rfl, -, -⟩ := stepped.exec h
    exact ⟨step, abort, p.runner, p.job, rfl, settled, request_eq p step⟩

/-- A run that has created its pod goes on like a run with that pod. -/
theorem Orderly.of_created {step : Step} {abort : Option Nat} {pod : PodRef} {spec : JobPod}
    (settled : last.isSome) (free : x.pod = none)
    (h : Orderly (past ++ [.create spec (some (.ok pod))]) last { x with pod := some pod }
      (.run step abort) cs) :
    Orderly past last x (.run step abort) (.create spec (some (.ok pod)) :: cs) where
  allowed e he := by
    rcases List.mem_cons.1 he with rfl | he
    · rfl
    · exact h.allowed e he
  creates _ _ _ := by
    have none_more := h.creates step abort rfl
    rw [if_neg (by simp)] at none_more
    rw [if_pos ⟨settled, free⟩, List.countP_cons, none_more]
    rfl
  execs := by
    rw [List.countP_cons]
    exact h.execs
  watched before target asked answer after he := by
    cases before with
    | nil => cases (List.cons.inj he).1
    | cons first before =>
      obtain ⟨rfl, rest⟩ := List.cons.inj he
      obtain ⟨earlier, s, rfl, hs⟩ := h.watched before target asked answer after rest
      exact ⟨_ :: earlier, s, rfl, hs⟩
  alive before e after target he ht := by
    cases before with
    | nil =>
      obtain ⟨rfl, -⟩ := List.cons.inj he
      cases ht
    | cons first before =>
      obtain ⟨rfl, rest⟩ := List.cons.inj he
      have := h.alive before e after target rest ht
      rwa [List.append_assoc] at this
  asks target asked answer he := by
    rcases List.mem_cons.1 he with he | he
    · cases he
    · exact h.asks target asked answer he

/-- What is known before an operation: what is prepared is what was settled last, the ledger is
balanced, and the pod that is held is alive. -/
structure Tracked (past : List Event) (last : Option (Runner × Job)) (x : Executor) : Prop where
  coherent : x.Coherent
  settled : last.map (fun a => Prepared.resolve a.1 a.2) = x.prepared.map .ok
  balanced : Balanced past x
  alive : ∀ pod, x.pod = some pod → Alive pod past

theorem Tracked.even (h : Tracked past last x) (free : x.pod = none) :
    created past = deleted past := by
  have balanced := h.balanced
  rw [Balanced, free] at balanced
  exact balanced.trans (List.append_nil _)

theorem Tracked.last_eq (h : Tracked past last x) {p : Prepared} (prepared : x.prepared = some p) :
    last = some (p.runner, p.job) := by
  have settled := h.settled
  rw [prepared] at settled
  cases last with
  | none => cases settled
  | some a =>
    obtain ⟨hr, hj⟩ := Prepared.resolve_ok (Option.some.inj settled)
    rw [hr, hj]

theorem Tracked.last_eq_none (h : Tracked past last x)
    (lacking : x.prepared = none ∨ x.polling = none) : last = none := by
  have unprepared : x.prepared = none := by
    rcases lacking with lacking | lacking
    · exact lacking
    · have waits := h.coherent.waits
      rw [lacking] at waits
      exact Option.isNone_iff_eq_none.1 (Option.isSome_eq_false_iff.1 waits.symm)
  have settled := h.settled
  rw [unprepared] at settled
  exact Option.map_eq_none_iff.1 settled

theorem Turn.orderly {r : Result} {es : List Event} (turn : Turn x op r es y)
    (h : Tracked past last x) : Orderly past last x op (calls es) := by
  cases turn with
  | refused | accepted | idle | dropped => exact orderly_nil fun _ _ hop => by cases hop
  | unprepared lacking => exact orderly_nil fun _ _ _ => h.last_eq_none lacking
  | uncreated prepared _ free =>
    have settled : last.isSome := by simp [h.last_eq prepared]
    refine orderly_single rfl rfl fun _ _ _ => ?_
    rw [if_pos ⟨settled, free⟩]
    rfl
  | @made step abort p _ pod _ es prepared _ free stepped =>
    have settled := h.last_eq prepared
    have live := alive_create (h.even free) p.podSpec pod
    exact Orderly.of_created (by simp [settled]) free (orderly_step rfl settled live stepped)
  | reused prepared _ held stepped =>
    exact orderly_step held (h.last_eq prepared) (h.alive _ held) stepped
  | released _ _ asked =>
    rw [asked]
    exact orderly_single rfl rfl fun _ _ hop => by cases hop

theorem tracked_fresh (connected : Bool) : Tracked [] none (fresh connected) :=
  ⟨coherent_fresh connected, rfl, rfl, fun _ held => by cases held⟩

/-- The pod that is held after an operation is alive if the one that was held before it was. -/
theorem Flow.alive {es : List Event} {pod : PodRef} (flow : Flow x op es y)
    (h : Tracked past last x) (held : y.pod = some pod) : Alive pod (past ++ calls es) := by
  cases flow with
  | kept same quiet => exact (h.alive pod (same ▸ held)).append (quiet_calls.2 quiet)
  | @made _ _ p made es _ _ free now quiet =>
    obtain rfl : made = pod := Option.some.inj (now.symm.trans held)
    have live := (alive_create (h.even free) p.podSpec made).append (quiet_calls.2 quiet)
    rwa [List.append_assoc] at live
  | released _ free _ =>
    rw [free] at held
    cases held

theorem Turn.tracked {r : Result} {es : List Event} (turn : Turn x op r es y)
    (h : Tracked past last x) : Tracked (past ++ calls es) ((accepted? op r).or last) y := by
  have flow := turn.flow h.coherent
  refine ⟨turn.coherent h.coherent, turn.accepted_eq h.settled, ?_, fun _ => flow.alive h⟩
  have balanced := flow.balanced h.balanced
  rwa [Balanced, created_append, deleted_append, ← created_calls es, ← deleted_calls es,
    ← created_append, ← deleted_append] at balanced

/-! ## Every history -/

variable {connect : ClusterSettings → Except Error Unit} {c : Cluster} {connected : Bool}
variable {ops : List Operation} {w : World} {pre post : List Moment} {m : Moment}

/-- What is known before a moment leads to what is known after it. -/
theorem Moment.IsTurn.tracked {ms : List Moment} (turn : m.IsTurn)
    (h : Tracked (calls (log ms)) (lastAccepted ms) m.before) :
    Tracked (calls (log (ms ++ [m]))) (lastAccepted (ms ++ [m])) m.after := by
  rw [log_append, log_singleton, calls_append, lastAccepted_append, lastAccepted_singleton]
  exact Turn.tracked turn h

/-- Before each moment it is known what is prepared and which pod is alive. -/
theorem tracked_of_history
    (h : history connect c (fresh connected) ops w = pre ++ m :: post) :
    Tracked (calls (log pre)) (lastAccepted pre) m.before ∧ m.IsTurn :=
  history_induction connect c
    (I := fun ms x => Tracked (calls (log ms)) (lastAccepted ms) x) (tracked_fresh connected)
    (fun _ _ known turn => turn.tracked known) h

/-- A pod is made from the description of the job that is prepared. -/
theorem Turn.prepared_of_create {x y : Executor} {op : Operation} {r : Result} {es : List Event}
    {spec : JobPod} {answer : Option (Except ClusterError PodRef)} (turn : Turn x op r es y)
    (asked : .create spec answer ∈ es) : ∃ p, x.prepared = some p ∧ spec = p.podSpec := by
  have asked : .create spec answer ∈ calls es := List.mem_filter.2 ⟨asked, rfl⟩
  cases turn with
  | refused | accepted | unprepared | idle | dropped => cases asked
  | uncreated prepared =>
    obtain ⟨rfl, -⟩ := Event.create.inj (List.mem_singleton.1 asked)
    exact ⟨_, prepared, rfl⟩
  | made prepared _ _ stepped =>
    rcases List.mem_cons.1 asked with same | later
    · obtain ⟨rfl, -⟩ := Event.create.inj same
      exact ⟨_, prepared, rfl⟩
    · cases stepped.target later
  | reused _ _ _ stepped => cases stepped.target asked
  | released _ _ deletion =>
    rw [deletion] at asked
    cases List.mem_singleton.1 asked

/-- A pod is made from what was settled last. -/
theorem settled_of_create (h : history connect c (fresh connected) ops w = pre ++ m :: post)
    {spec : JobPod} {answer : Option (Except ClusterError PodRef)}
    (asked : .create spec answer ∈ m.events) :
    ∃ p, spec = p.podSpec ∧ lastAccepted pre = some (p.runner, p.job) ∧
      Prepared.resolve p.runner p.job = .ok p := by
  obtain ⟨known, turn⟩ := tracked_of_history h
  obtain ⟨p, prepared, rfl⟩ := turn.prepared_of_create asked
  have last := known.last_eq prepared
  have settled := known.settled
  rw [prepared, last] at settled
  exact ⟨p, rfl, last, Option.some.inj settled⟩

/-- The calls of every operation are orderly: each is one that the operation may make, a run creates
at most one pod and starts at most one script, and it starts it as told, right after having seen its
pod running, in the pod that was created last and not deleted since. -/
theorem calls_orderly (h : history connect c (fresh connected) ops w = pre ++ m :: post) :
    Orderly (calls (log pre)) (lastAccepted pre) m.before m.op (calls m.events) := by
  obtain ⟨tracked, turn⟩ := tracked_of_history h
  exact turn.orderly tracked

open Sample in
/-- The second run of a trial creates its pod, looks at it twice and starts its script. -/
theorem sample_orderly : ∃ pre m post,
    trial [.prepare runner job, .run step none, .run step none] = pre ++ m :: post ∧
      (calls m.events).map Event.target? =
        [none, some ⟨"1", "ci"⟩, some ⟨"1", "ci"⟩, some ⟨"1", "ci"⟩] ∧
      (calls m.events).countP Event.isExec = 1 ∧
      Orderly (calls (log pre)) (lastAccepted pre) m.before m.op (calls m.events) := by
  have h : trial [.prepare runner job, .run step none, .run step none] = [_, _] ++ _ :: [] := rfl
  refine ⟨_, _, _, h, ?_, ?_, calls_orderly h⟩
  · decide +kernel
  · decide +kernel

end Executor

end PodRunner
