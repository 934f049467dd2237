import PodRunner.Proofs.Operations

/-!
# How a step ends

A step ends with success, with the failure of waiting for its pod, with a pod that does something
else than run, with the failure of its script, or with a crash (`Executor.Outcome`), unless it is
interrupted or waits forever (`Executor.joined_stepTask`).  So a step of a prepared job is never
reported as unprepared, and never as aborted by itself.
-/

namespace PodRunner

/-- What can be reported of waiting for a pod. -/
def Error.ofPolling : Error → Bool
  | podStatus _ | podStartTimeout .. | podNotRunning _ => true
  | _ => false

namespace Cluster

variable (c : Cluster) (pod : PodRef) (trace : String)

/-- Failures are failures of polling. -/
def FailsAsPolling (v : Option (Except Error Phase)) (_ : List Event) : Prop :=
  ∀ e, v = some (.error e) → e.ofPolling = true

theorem ofPolling_of_look {answer : Except ClusterError PodState} {e : Error}
    (h : look pod answer = .decided (.error e)) : e.ofPolling = true := by
  unfold look at h
  cases answer with
  | error cause =>
    by_cases hn : cause.notFound = true
    · simp only [hn, if_true, Look.decided.injEq, Except.error.injEq] at h
      rw [← h]
      rfl
    · simp [hn] at h
  | ok s =>
    by_cases hp : s.phase = .pending
    · cases hw : s.waiting with
      | none => simp [hp, hw] at h
      | some reason =>
        simp only [hp, hw, ne_eq, not_true, if_false, Look.decided.injEq, Except.error.injEq] at h
        rw [← h]
        rfl
    · simp [hp] at h

theorem ofPolling_exhausted (lastError : Option ClusterError) :
    (exhausted pod lastError).ofPolling = true := by
  cases lastError <;> rfl

theorem failsAsPolling_attempt {next : Option ClusterError → Task (Except Error Phase)}
    (hnext : ∀ lastError, (next lastError).Records FailsAsPolling) :
    (c.attempt pod trace next).Records FailsAsPolling := by
  unfold attempt
  refine (c.records_podState pod).bind (fun answer es _ => ?_) (fun es _ e he => by cases he)
  cases h : look pod answer with
  | decided result =>
    refine Task.records_pure result fun e he => ?_
    obtain rfl : result = .error e := Option.some.inj he
    exact ofPolling_of_look pod h
  | pending line lastError =>
    refine (Task.records_record (P := fun v _ => v = some ()) _ rfl).bind (fun _ fs _ => ?_)
      (fun fs hfs => by cases hfs)
    exact (hnext lastError).mono fun v gs hgs => hgs

theorem failsAsPolling_poll (interval : Duration) (n : Nat) :
    (c.poll interval pod trace n).Records FailsAsPolling := by
  induction n with
  | zero =>
    unfold poll
    refine c.failsAsPolling_attempt pod trace fun lastError => Task.records_pure _ fun e he => ?_
    obtain rfl : exhausted pod lastError = e := Except.error.inj (Option.some.inj he)
    exact ofPolling_exhausted pod lastError
  | succ n ih =>
    unfold poll
    refine c.failsAsPolling_attempt pod trace fun _ => ?_
    exact (Task.records_pause (P := fun _ _ => True) _ trivial trivial).bind
      (fun _ _ _ => ih.mono fun v gs hgs => hgs) (fun _ _ e he => by cases he)

theorem ofPolling_of_awaitRunning {settings : PollSettings} {deadline : Option Nat} {w : World}
    {e : Error} (h : (c.awaitRunning settings pod trace deadline w).1 = .value (.error e)) :
    e.ofPolling = true := by
  obtain ⟨es, -, fails⟩ := c.failsAsPolling_poll pod trace settings.interval _ deadline w
  exact fails e (congrArg Ended.value? h)

end Cluster

namespace Executor

variable {c : Cluster} {p : Prepared} {polling : PollSettings} {pod : PodRef} {s : Step}
variable {deadline : Option Nat} {w : World} {r : Except Error Unit}

/-- How a step can end, from what waiting for its pod came to and what its request came to. -/
inductive Outcome (awaited : Ended (Except Error Phase))
    (answered : Ended (Except ClusterError Unit)) : Except Error Unit → Prop
  | done (running : awaited = .value (.ok .running)) (answer : answered = .value (.ok ())) :
      Outcome awaited answered (.ok ())
  | unawaited {e} (failed : awaited = .value (.error e)) : Outcome awaited answered (.error e)
  | elsewhere {phase} (seen : awaited = .value (.ok phase)) (other : phase ≠ .running) :
      Outcome awaited answered (.error (.podNotRunning phase.text))
  | failed {e} (running : awaited = .value (.ok .running))
      (answer : answered = .value (.error e)) : Outcome awaited answered (.error (.execution e))
  | crashed {text} (panicked : awaited = .crash text ∨
      awaited = .value (.ok .running) ∧ answered = .crash text) :
      Outcome awaited answered (.error (crashReport text))

/-- Waiting for the pod of a step. -/
def awaitPod (c : Cluster) (p : Prepared) (polling : PollSettings) (pod : PodRef) :
    Task (Except Error Phase) :=
  c.awaitRunning polling pod p.job.trace

/-- Running the script of a step in a pod. -/
def execStep (c : Cluster) (p : Prepared) (pod : PodRef) (s : Step) :
    Task (Except ClusterError Unit) :=
  c.execIn pod (request p s) p.job.trace

/-- A step in a pod that runs goes on with its script. -/
theorem stepTask_of_running {w' : World}
    (h : awaitPod c p polling pod deadline w = (.value (.ok .running), w')) :
    (stepTask c p polling pod s deadline w).1 =
      (execStep c p pod s deadline w').1.map (·.mapError .execution) := by
  unfold awaitPod at h
  rw [stepTask, Cluster.runScript, Task.bind_apply, h, execStep]
  show (((c.execIn pod (request p s) p.job.trace) >>= _) deadline w').1 = _
  rw [Task.bind_apply]
  rcases c.execIn pod (request p s) p.job.trace deadline w' with ⟨(_ | _) | _ | _ | _, w''⟩ <;> rfl

/-- What is reported of a pod that does not run. -/
def unstarted : Except Error Phase → Except Error Unit
  | .error e => .error e
  | .ok phase => .error (.podNotRunning phase.text)

/-- A step in a pod that does not run is over. -/
theorem stepTask_of_elsewhere {a : Ended (Except Error Phase)} {w' : World}
    (h : awaitPod c p polling pod deadline w = (a, w')) (other : a ≠ .value (.ok .running)) :
    stepTask c p polling pod s deadline w = (a.map unstarted, w') := by
  unfold awaitPod at h
  rw [stepTask, Cluster.runScript, Task.bind_apply, h]
  match a with
  | .value (.error e) | .crash text | .never | .cut => rfl
  | .value (.ok phase) =>
    have stopped : phase ≠ .running := fun running => other (by rw [running])
    simp only [if_pos stopped]
    rfl

/-- A step that comes to something was interrupted or has one of the outcomes. -/
theorem joined_stepTask
    (h : joined (stepTask c p polling pod s deadline w).1 = .value r) :
    (stepTask c p polling pod s deadline w).1 = .cut ∧ r = .error .aborted ∨
      Outcome (awaitPod c p polling pod deadline w).1
        (execStep c p pod s deadline (awaitPod c p polling pod deadline w).2).1 r := by
  rcases awaited : awaitPod c p polling pod deadline w with ⟨a, w'⟩
  by_cases running : a = .value (.ok .running)
  · subst running
    rw [stepTask_of_running awaited] at h ⊢
    show _ ∨ Outcome _ (execStep c p pod s deadline w').1 r
    cases answered : (execStep c p pod s deadline w').1 with
    | value answer =>
      rw [answered] at h
      cases answer with
      | ok =>
        obtain rfl : .ok () = r := Ended.value.inj h
        exact .inr (.done rfl rfl)
      | error e =>
        obtain rfl : .error (.execution e) = r := Ended.value.inj h
        exact .inr (.failed rfl rfl)
    | crash text =>
      rw [answered] at h
      obtain rfl : .error (crashReport text) = r := Ended.value.inj h
      exact .inr (.crashed (.inr ⟨rfl, rfl⟩))
    | never =>
      rw [answered] at h
      cases h
    | cut =>
      rw [answered] at h
      obtain rfl : .error .aborted = r := Ended.value.inj h
      exact .inl ⟨rfl, rfl⟩
  · rw [stepTask_of_elsewhere awaited running] at h ⊢
    match a with
    | .value (.error e) =>
      obtain rfl : .error e = r := Ended.value.inj h
      exact .inr (.unawaited rfl)
    | .value (.ok phase) =>
      obtain rfl : .error (.podNotRunning phase.text) = r := Ended.value.inj h
      exact .inr (.elsewhere rfl fun stopped => running (by rw [stopped]))
    | .crash text =>
      obtain rfl : .error (crashReport text) = r := Ended.value.inj h
      exact .inr (.crashed (.inl rfl))
    | .never => cases h
    | .cut =>
      obtain rfl : .error .aborted = r := Ended.value.inj h
      exact .inl ⟨rfl, rfl⟩

/-- No outcome is what is reported of something else than the step. -/
theorem Outcome.ne_of_foreign {answered : Ended (Except ClusterError Unit)} {e : Error}
    (h : Outcome (awaitPod c p polling pod deadline w).1 answered r)
    (foreign : e = .aborted ∨ e = .notPrepared) : r ≠ .error e := by
  rintro rfl
  cases h with
  | unawaited failed =>
    have := c.ofPolling_of_awaitRunning pod p.job.trace failed
    rcases foreign with rfl | rfl <;> cases this
  | elsewhere | failed | crashed => rcases foreign with h | h <;> cases h

theorem run_ne_notPrepared {x : Executor} {abort : Option Nat} (prepared : x.prepared = some p)
    (waits : x.polling = some polling) :
    (x.run c s abort w).1 ≠ .value (.error .notPrepared) := by
  have stepped : ∀ (x : Executor) (pod : PodRef) (w : World), x.prepared = some p →
      x.polling = some polling → x.pod = some pod →
      (x.run c s abort w).1 ≠ .value (.error .notPrepared) := by
    intro x pod w prepared waits held h
    rw [run_of_held prepared waits held, Task.until] at h
    split at h
    · rcases joined_stepTask h with ⟨-, h⟩ | outcome
      · cases h
      · exact outcome.ne_of_foreign (.inr rfl) rfl
    · cases h
  -- A run that creates its pod goes on as one that holds it, in a later world.
  cases held : x.pod with
  | some pod => exact stepped x pod w prepared waits held
  | none =>
    rcases made : c.createPod p.podSpec none w with ⟨r, w'⟩
    rcases r.ok_or_ne with ⟨pod, rfl⟩ | failed
    · rw [run_of_created prepared waits held made]
      exact stepped { x with pod := some pod } pod w' prepared waits rfl
    · rw [run_of_uncreated prepared waits held made failed]
      intro h
      obtain ⟨cause, uncreated⟩ := creationResult_of_failed failed h
      cases uncreated

end Executor

/-! ## Scripts of steps that succeed -/

/-- A step that succeeds has run its script. -/
theorem Cluster.records_success (c : Cluster) (settings : PollSettings) (pod : PodRef)
    (request : ExecRequest) (trace : String) :
    (c.runScript settings pod request trace).Records fun v es =>
      v = some (.ok ()) → .exec pod request (some (.ok ())) ∈ es := by
  unfold runScript
  refine ((c.records_awaitRunning settings pod trace).mono fun _ _ _ => trivial).bind
    (P := fun _ _ => True) (fun result es _ => ?_) (fun _ _ h => by cases h)
  cases result with
  | error e => exact Task.records_pure _ fun h => by cases h
  | ok phase =>
    by_cases running : phase = .running
    · subst running
      refine (c.records_execIn pod request trace).bind (fun answer fs hfs => ?_)
        (fun _ _ h => by cases h)
      obtain ⟨pieces, rfl⟩ := hfs
      cases answer with
      | error e => exact Task.records_pure _ fun h => by cases h
      | ok => exact Task.records_pure _ fun _ => by simp
    · simp only [if_pos running]
      exact Task.records_pure _ fun h => by cases h

namespace Executor

variable {c : Cluster} {p : Prepared} {polling : PollSettings} {pod : PodRef} {s : Step}
variable {x : Executor} {abort : Option Nat} {w : World}

/-- A script was run to a successful end between two worlds. -/
def Executed (w w' : World) : Prop :=
  ∃ es pod request, w'.events = w.events ++ es ∧ .exec pod request (some (.ok ())) ∈ es

theorem executed_of_held (prepared : x.prepared = some p) (waits : x.polling = some polling)
    (held : x.pod = some pod) (done : (x.run c s abort w).1 = .value (.ok ())) :
    Executed w (x.run c s abort w).2.2 := by
  rw [run_of_held prepared waits held] at done ⊢
  obtain ⟨es, he, success⟩ :=
    (c.records_success polling pod (request p s) p.job.trace).until (by simp) abort w
  refine ⟨es, pod, request p s, he, success ?_⟩
  have value : ((stepTask c p polling pod s).until abort w).1 = .value (.ok ()) := by
    cases ended : ((stepTask c p polling pod s).until abort w).1 <;> rw [ended] at done
    case value r => exact done
    all_goals cases done
  exact congrArg Ended.value? value

/-- A run that succeeds has run a script. -/
theorem executed_of_run (done : (x.run c s abort w).1 = .value (.ok ())) :
    Executed w (x.run c s abort w).2.2 := by
  cases prepared : x.prepared with
  | none => simp [run_of_unprepared (.inl prepared)] at done
  | some p =>
    cases waits : x.polling with
    | none => simp [run_of_unprepared (.inr waits)] at done
    | some polling =>
      cases held : x.pod with
      | some pod => exact executed_of_held prepared waits held done
      | none =>
        obtain ⟨before, he, -⟩ := c.records_createPod p.podSpec none w
        rcases made : c.createPod p.podSpec none w with ⟨r, w'⟩
        rw [made] at he
        rcases r.ok_or_ne with ⟨pod, rfl⟩ | failed
        · rw [run_of_created prepared waits held made] at done ⊢
          obtain ⟨es, target, asked, hes, hexec⟩ :=
            executed_of_held (x := { x with pod := some pod }) prepared waits rfl done
          refine ⟨before ++ es, target, asked, ?_, List.mem_append_right _ hexec⟩
          rw [hes, he, List.append_assoc]
        · rw [run_of_uncreated prepared waits held made failed] at done
          obtain ⟨cause, uncreated⟩ := creationResult_of_failed failed done
          cases uncreated

end Executor

end PodRunner
