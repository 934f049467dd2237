import PodRunner.Cluster.Polling

/-!
# What a task leaves behind

A task only adds to the events of its world.  `Task.Records t P` says that the events which `t`
adds, together with the value with which it ends (if it ends with one), satisfy `P`, whatever its
deadline is and whatever has happened before.  There is one rule for each action and for sequences,
one for each call to the cluster, and from these one for a whole step (`records_runScript`): looks
at one pod, and at most one request, right after a look that found the pod running.
-/

namespace PodRunner

/-! ## Events -/

namespace Event

/-- The event is a call to the cluster. -/
def isCall : Event → Bool
  | .output .. => false
  | _ => true

/-- The pod that the event creates, with the description that it is created from. -/
def creation? : Event → Option (JobPod × PodRef)
  | .create spec (some (.ok pod)) => some (spec, pod)
  | _ => none

/-- The pod that the event hands to deletion. -/
def deletion? : Event → Option PodRef
  | .delete pod _ => some pod
  | _ => none

end Event

/-- The calls among some events. -/
def calls (es : List Event) : List Event := es.filter Event.isCall

@[simp] theorem calls_nil : calls [] = [] := rfl

@[simp] theorem calls_append (es fs : List Event) : calls (es ++ fs) = calls es ++ calls fs :=
  List.filter_append ..

@[simp] theorem calls_output (trace : String) (bytes : List UInt8) (es : List Event) :
    calls (.output trace bytes :: es) = calls es := rfl

@[simp] theorem calls_outputs (trace : String) (pieces : List (List UInt8)) :
    calls (pieces.map (.output trace)) = [] := by
  rw [calls, List.filter_eq_nil_iff]
  intro e he
  obtain ⟨bytes, -, rfl⟩ := List.mem_map.1 he
  simp [Event.isCall]

namespace World

theorem events_foldl_record (w : World) (es : List Event) :
    (es.foldl record w).events = w.events ++ es := by
  induction es generalizing w with
  | nil => exact (List.append_nil _).symm
  | cons e es ih =>
    rw [List.foldl_cons, ih, events_record, List.append_assoc]
    rfl

end World

/-! ## Endings -/

/-- The value with which a task ended. -/
def Ended.value? {α : Type} : Ended α → Option α
  | .value a => some a
  | _ => none

/-- A call has succeeded or has given no success. -/
theorem Ended.ok_or_ne {ε α : Type} (r : Ended (Except ε α)) :
    (∃ a, r = .value (.ok a)) ∨ ∀ a, r.value? ≠ some (.ok a) := by
  match r with
  | .value (.ok a) => exact .inl ⟨a, rfl⟩
  | .value (.error _) | .crash _ | .never | .cut => exact .inr fun a h => by cases h

/-- The ending with another value. -/
def Ended.map {α β : Type} (f : α → β) : Ended α → Ended β
  | .value a => .value (f a)
  | .crash text => .crash text
  | .never => .never
  | .cut => .cut

namespace Task

variable {α β : Type} {P : Option α → List Event → Prop} {Q : Option β → List Event → Prop}

/-- The events that the task adds satisfy `P` together with its value. -/
def Records (t : Task α) (P : Option α → List Event → Prop) : Prop :=
  ∀ deadline w, ∃ es, (t deadline w).2.events = w.events ++ es ∧ P (t deadline w).1.value? es

/-! ## Rules for actions -/

theorem Records.mono {P' : Option α → List Event → Prop} {t : Task α} (h : t.Records P)
    (hP : ∀ v es, P v es → P' v es) : t.Records P' := by
  intro deadline w
  obtain ⟨es, he, hp⟩ := h deadline w
  exact ⟨es, he, hP _ _ hp⟩

theorem bind_apply (t : Task α) (f : α → Task β) (deadline : Option Nat) (w : World) :
    (t >>= f) deadline w =
      match t deadline w with
      | (.value a, w) => f a deadline w
      | (.crash m, w) => (.crash m, w)
      | (.never, w) => (.never, w)
      | (.cut, w) => (.cut, w) := rfl

theorem records_pure (a : α) (h : P (some a) []) : (pure a : Task α).Records P := by
  intro deadline w
  exact ⟨[], (List.append_nil _).symm, h⟩

/-- A sequence adds what its first part adds and then, if that gives a value, what its second part
adds. -/
theorem Records.bind {t : Task α} {f : α → Task β} (ht : t.Records P)
    (hf : ∀ a es, P (some a) es → (f a).Records fun v fs => Q v (es ++ fs))
    (hs : ∀ es, P none es → Q none es) : (t >>= f).Records Q := by
  intro deadline w
  obtain ⟨es, he, hp⟩ := ht deadline w
  rw [bind_apply]
  rcases ht' : t deadline w with ⟨_ | _ | _ | _, w'⟩ <;> rw [ht'] at he hp
  case value a =>
    obtain ⟨fs, hf', hq⟩ := hf a es hp deadline w'
    refine ⟨es ++ fs, ?_, hq⟩
    rw [hf', he, List.append_assoc]
  all_goals exact ⟨es, he, hs es hp⟩

theorem records_record {P : Option Unit → List Event → Prop} (e : Event) (h : P (some ()) [e]) :
    (record e).Records P := by
  intro deadline w
  exact ⟨[e], w.events_record e, h⟩

theorem records_pause {P : Option Unit → List Event → Prop} (ms : Nat) (h : P (some ()) [])
    (hs : P none []) : (pause ms).Records P := by
  intro deadline w
  unfold pause
  split
  · exact ⟨[], (List.append_nil _).symm, h⟩
  · exact ⟨[], (List.append_nil _).symm, hs⟩

/-- A task that is interrupted before it begins does nothing. -/
theorem until_of_late (t : Task α) {d : Nat} {w : World} (late : d ≤ w.now) :
    t.until (some d) w = (.cut, w) := by
  have : ¬ before w.now (some d) = true := by
    simp only [before, decide_eq_true_eq]
    omega
  rw [Task.until, if_neg this]

/-- A task that begins too late adds nothing. -/
theorem Records.until {t : Task α} (h : t.Records P) (hs : P none []) :
    Records (Task.until t) P := by
  intro deadline w
  unfold Task.until
  split
  · exact h deadline w
  · exact ⟨[], (List.append_nil _).symm, hs⟩

/-! ## Rules for calls -/

theorem before_of_le {m n : Nat} {deadline : Option Nat} (h : m ≤ n)
    (hn : before n deadline = true) : before m deadline = true := by
  cases deadline with
  | none => rfl
  | some d =>
    simp only [before, decide_eq_true_eq] at hn ⊢
    omega

/-- Waiting for an answer records nothing, and gives the answer that the call has. -/
theorem settle_spec (r : Reply α) (deadline : Option Nat) (w : World) :
    (settle r deadline w).2.events = w.events ∧
      (settle r deadline w).1.value? = answer? r deadline w.now := by
  unfold settle answer?
  rw [bind_apply]
  by_cases hb : before (w.now + r.delay) deadline = true
  · rw [pause, if_pos hb, if_pos hb]
    cases r.outcome with
    | returns a => exact ⟨rfl, rfl⟩
    | fails e => exact ⟨rfl, rfl⟩
    | crashes text => exact ⟨rfl, rfl⟩
    | hangs => cases deadline <;> exact ⟨rfl, rfl⟩
  · rw [pause, if_neg hb, if_neg hb]
    exact ⟨rfl, rfl⟩

/-- Streaming writes output and nothing else, and gives the answer that the call has, counted from
where the streaming begins. -/
theorem stream_spec (trace : String) (r : Reply α) (pieces : List Piece) (deadline : Option Nat)
    (w : World) :
    ∃ written : List (List UInt8),
      (stream trace r pieces deadline w).2.events = w.events ++ written.map (.output trace) ∧
        (stream trace r pieces deadline w).1.value? =
          answer? (r.behind pieces) deadline w.now := by
  induction pieces generalizing w with
  | nil =>
    obtain ⟨events, value⟩ := settle_spec r deadline w
    refine ⟨[], events.trans (List.append_nil _).symm, value.trans ?_⟩
    rw [Reply.behind_nil]
  | cons piece pieces ih =>
    rw [stream, bind_apply, pause]
    by_cases inTime : before (w.now + piece.delay) deadline = true
    · rw [if_pos inTime]
      obtain ⟨written, events, value⟩ :=
        ih ({ w with now := w.now + piece.delay }.record (.output trace piece.bytes))
      refine ⟨piece.bytes :: written, ?_, ?_⟩
      · refine events.trans ?_
        rw [World.events_record, List.append_assoc]
        rfl
      · refine value.trans ?_
        rw [answer?, answer?, Reply.delay_behind_cons, ← Nat.add_assoc]
        rfl
    · rw [if_neg inTime]
      refine ⟨[], (List.append_nil _).symm, ?_⟩
      have late : ¬ before (w.now + (r.behind (piece :: pieces)).delay) deadline = true := by
        intro h
        refine inTime (before_of_le ?_ h)
        rw [Reply.delay_behind_cons]
        omega
      exact (if_neg late).symm

end Task

namespace Cluster

variable (c : Cluster)

/-- A call is recorded with the answer that it gives. -/
theorem records_call {α : Type} {t : Task (Except ClusterError α)}
    {event : Option (Except ClusterError α) → Event}
    (h : ∀ deadline w, ∃ (r : Reply α) (asking : World),
      t deadline w =
          Task.settle r deadline (asking.record (event (Task.answer? r deadline w.now))) ∧
        asking.events = w.events ∧ asking.now = w.now) :
    t.Records fun v es => es = [event v] := by
  intro deadline w
  obtain ⟨r, asking, ht, same, now⟩ := h deadline w
  let answer := Task.answer? r deadline w.now
  obtain ⟨he, hv⟩ := Task.settle_spec r deadline (asking.record (event answer))
  rw [ht]
  refine ⟨[event answer], ?_, ?_⟩
  · rw [he, World.events_record, same]
  · have value : _ = answer := hv.trans (congrArg (Task.answer? r deadline) now)
    rw [value]

theorem records_createPod (spec : JobPod) :
    (c.createPod spec).Records fun v es => es = [.create spec v] :=
  records_call fun _ _ => ⟨_, _, rfl, rfl, rfl⟩

theorem records_podState (pod : PodRef) :
    (c.podState pod).Records fun v es => es = [.state pod v] :=
  records_call fun _ _ => ⟨_, _, rfl, rfl, rfl⟩

theorem records_deletePod (pod : PodRef) :
    (c.deletePod pod).Records fun v es => es = [.delete pod v] :=
  records_call fun _ _ => ⟨_, _, rfl, rfl, rfl⟩

/-- A request is recorded first of all, and then output of its script. -/
theorem records_execIn (pod : PodRef) (request : ExecRequest) (trace : String) :
    (c.execIn pod request trace).Records fun v es =>
      ∃ pieces : List (List UInt8), es = .exec pod request v :: pieces.map (.output trace) := by
  intro deadline w
  let e := c.exec w.counts.exec pod request
  let answer := Task.answer? (e.reply.behind e.output) deadline w.now
  let asked := { w with counts.exec := w.counts.exec + 1 }.record (.exec pod request answer)
  obtain ⟨written, events, value⟩ := Task.stream_spec trace e.reply e.output deadline asked
  refine ⟨.exec pod request answer :: written.map (.output trace), ?_, written, ?_⟩
  · refine events.trans ?_
    rw [World.events_record, List.append_assoc]
    rfl
  · exact congrArg (fun v => Event.exec pod request v :: written.map (.output trace)) value.symm

/-! ## What a step calls -/

/-- Looks at the pod and nothing else. -/
def Looks (pod : PodRef) (es : List Event) : Prop := ∀ e ∈ es, ∃ answer, e = .state pod answer

theorem Looks.append {pod : PodRef} {es fs : List Event} (h : Looks pod es) (h' : Looks pod fs) :
    Looks pod (es ++ fs) := by
  intro e he
  rcases List.mem_append.1 he with he | he
  · exact h e he
  · exact h' e he

theorem looks_state (pod : PodRef) (answer : Option (Except ClusterError PodState)) :
    Looks pod [.state pod answer] := by
  intro e he
  exact ⟨answer, List.mem_singleton.1 he⟩

/-- Polling looks at the pod and calls nothing else, and the phase that it gives is the one that it
has seen last. -/
def Polled (pod : PodRef) (v : Option (Except Error Phase)) (es : List Event) : Prop :=
  Looks pod (calls es) ∧
    ∀ phase, v = some (.ok phase) →
      ∃ before s, calls es = before ++ [.state pod (some (.ok s))] ∧ s.phase = phase

theorem Polled.after {pod : PodRef} {v : Option (Except Error Phase)} {es fs : List Event}
    (h : Polled pod v fs) (hes : Looks pod (calls es)) : Polled pod v (es ++ fs) := by
  refine ⟨?_, fun phase hv => ?_⟩
  · rw [calls_append]
    exact hes.append h.1
  · obtain ⟨before, s, hc, hs⟩ := h.2 phase hv
    refine ⟨calls es ++ before, s, ?_, hs⟩
    rw [calls_append, hc, List.append_assoc]

/-- A phase is decided by the look that has seen it. -/
theorem phase_of_look {pod : PodRef} {answer : Except ClusterError PodState} {phase : Phase}
    (h : look pod answer = .decided (.ok phase)) : ∃ s, answer = .ok s ∧ s.phase = phase := by
  cases answer with
  | error e =>
    unfold look at h
    by_cases hn : e.notFound <;> simp [hn] at h
  | ok s =>
    refine ⟨s, rfl, ?_⟩
    unfold look at h
    by_cases hp : s.phase = .pending
    · cases hw : s.waiting <;> simp [hp, hw] at h
    · simpa [hp] using h

theorem records_attempt (pod : PodRef) (trace : String)
    {next : Option ClusterError → Task (Except Error Phase)}
    (hnext : ∀ lastError, (next lastError).Records (Polled pod)) :
    (c.attempt pod trace next).Records (Polled pod) := by
  unfold attempt
  refine (c.records_podState pod).bind (fun answer es hes => ?_) (fun es hes => ?_)
  · subst hes
    have hlook : Looks pod (calls [.state pod (some answer)]) := looks_state pod (some answer)
    cases h : look pod answer with
    | decided result =>
      refine Task.records_pure result ⟨hlook, fun phase hv => ?_⟩
      obtain rfl : result = .ok phase := Option.some.inj hv
      obtain ⟨s, rfl, hs⟩ := phase_of_look h
      exact ⟨[], s, rfl, hs⟩
    | pending line lastError =>
      refine (Task.records_record (P := fun v fs => v = some () ∧ fs = [.output trace line])
        _ ⟨rfl, rfl⟩).bind (fun _ fs hfs => ?_) (fun fs hfs => absurd hfs.1 (by simp))
      obtain ⟨-, rfl⟩ := hfs
      refine (hnext lastError).mono fun v gs hgs => ?_
      have told : Looks pod (calls [.output trace line]) := by simp [Looks]
      exact (hgs.after told).after hlook
  · subst hes
    exact ⟨looks_state pod none, fun phase hv => absurd hv (by simp)⟩

theorem records_poll (interval : Duration) (pod : PodRef) (trace : String) (n : Nat) :
    (c.poll interval pod trace n).Records (Polled pod) := by
  have nothing : ∀ v : Option (Except Error Phase), (∀ phase, v ≠ some (.ok phase)) →
      Polled pod v [] := by
    intro v hv
    exact ⟨by simp [Looks], fun phase h => absurd h (hv phase)⟩
  induction n with
  | zero =>
    unfold poll
    exact c.records_attempt pod trace fun lastError =>
      Task.records_pure _ (nothing _ (by simp))
  | succ n ih =>
    unfold poll
    refine c.records_attempt pod trace fun _ => ?_
    refine (Task.records_pause (P := fun _ es => es = []) _ rfl rfl).bind
      (fun _ es hes => ?_) (fun es hes => ?_)
    · subst hes
      exact ih
    · subst hes
      exact nothing none (by simp)

theorem records_awaitRunning (settings : PollSettings) (pod : PodRef) (trace : String) :
    (c.awaitRunning settings pod trace).Records (Polled pod) :=
  c.records_poll settings.interval pod trace _

/-- The calls of a step: looks at its pod and, if a look has found the pod running, one request
right after that look. -/
def StepCalls (pod : PodRef) (request : ExecRequest) (es : List Event) : Prop :=
  Looks pod es ∨
    ∃ before s answer, Looks pod before ∧ s.phase = .running ∧
      es = before ++ [.state pod (some (.ok s)), .exec pod request answer]

theorem records_runScript (settings : PollSettings) (pod : PodRef) (request : ExecRequest)
    (trace : String) :
    (c.runScript settings pod request trace).Records fun _ es =>
      StepCalls pod request (calls es) := by
  unfold runScript
  refine (c.records_awaitRunning settings pod trace).bind (fun result es hes => ?_)
    (fun es hes => .inl hes.1)
  have looked : StepCalls pod request (calls (es ++ [])) := by
    rw [List.append_nil]
    exact .inl hes.1
  cases result with
  | error e => exact Task.records_pure _ looked
  | ok phase =>
    obtain ⟨before, s, hc, hs⟩ := hes.2 phase rfl
    by_cases hp : phase = .running
    · subst hp
      have asked : ∀ answer (pieces : List (List UInt8)), StepCalls pod request
          (calls (es ++ .exec pod request answer :: pieces.map (.output trace))) := by
        intro answer pieces
        refine .inr ⟨before, s, answer, ?_, hs, ?_⟩
        · intro e he
          exact hes.1 e (hc ▸ List.mem_append_left _ he)
        · have hexec : calls (.exec pod request answer :: pieces.map (.output trace)) =
              [.exec pod request answer] :=
            congrArg (List.cons _) (calls_outputs trace pieces)
          rw [calls_append, hc, hexec, List.append_assoc]
          rfl
      refine (c.records_execIn pod request trace).bind (fun answer fs hfs => ?_)
        (fun fs hfs => ?_)
      · obtain ⟨pieces, rfl⟩ := hfs
        cases answer <;> exact Task.records_pure _ (by simpa using asked _ pieces)
      · obtain ⟨pieces, rfl⟩ := hfs
        exact asked none pieces
    · simp only [if_pos hp]
      exact Task.records_pure _ looked

end Cluster

end PodRunner
