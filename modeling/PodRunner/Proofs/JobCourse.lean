import PodRunner.CommandLine.Run
import PodRunner.Proofs.Abort
import PodRunner.Proofs.CallOrder

/-!
# The course of a job

What a run of a job file does, operation by operation (`Plan.moments`): it prepares the job, runs
the steps up to the first that fails, and cleans up (`Plan.Course`).  If all of these operations
return, the program ends with the exit code and the last line that this course calls for, and leaves
no pod behind (`Plan.course_of_loaded`).
-/

namespace PodRunner

namespace Executor

/-! ## Operations that return -/

/-- The operation came to a result. -/
def Result.returned : Result → Bool
  | .prepared _ | .ran (.value _) | .cleaned (.value _) => true
  | .ran _ | .cleaned _ => false

/-- A job that is not settled leaves no event behind. -/
theorem Turn.events_eq_nil {x y : Executor} {op : Operation} {r : Result} {es : List Event}
    {e : Error} (turn : Turn x op r es y) (failed : r = .prepared (.error e)) : es = [] := by
  cases turn with
  | refused => rfl
  | _ => cases failed

/-- The run of a step that is interrupted at a given moment. -/
def stepMoment (connect : ClusterSettings → Except Error Unit) (c : Cluster)
    (interrupt : Option Nat) (s : Step) (x : Executor) (w : World) : Moment :=
  moment connect c x (.run s (interrupt.map (· - w.now))) w

theorem run_eq_stepMoment (connect : ClusterSettings → Except Error Unit) (c : Cluster)
    (interrupt : Option Nat) (s : Step) (x : Executor) (w : World) {r : Ended (Except Error Unit)}
    (h : (stepMoment connect c interrupt s x w).result = .ran r) :
    x.run c s interrupt w = (r, (stepMoment connect c interrupt s x w).after,
      (stepMoment connect c interrupt s x w).ended) := by
  have same := run_interrupted (c := c) (x := x) (s := s) (w := w) interrupt
  have result : (x.run c s ((interrupt.map (· - w.now)).map (w.now + ·)) w).1 = r :=
    Result.ran.inj h
  rw [← same, ← result]
  rfl

end Executor

namespace Plan

open Executor

/-! ## The course -/

section Moments

variable (connect : ClusterSettings → Except Error Unit) (c : Cluster) (interrupt : Option Nat)

/-- What steps come to, up to the first that does not succeed, and then the cleanup.  Nothing comes
after an operation that does not return. -/
def finishMoments : List Step → Executor → World → List Moment
  | [], x, w => [moment connect c x .cleanup w]
  | s :: steps, x, w =>
    let m := stepMoment connect c interrupt s x w
    match m.result with
    | .ran (.value (.ok ())) => m :: finishMoments steps m.after m.ended
    | .ran (.value (.error _)) => [m, moment connect c m.after .cleanup m.ended]
    | _ => [m]

/-- What the operations of a job come to. -/
def moments (p : Plan) (w : World) : List Moment :=
  let first := moment connect c p.executor (.prepare p.runner p.job) w
  match first.result with
  | .prepared (.ok ()) =>
    first :: finishMoments connect c interrupt p.steps first.after first.ended
  | _ => [first]

end Moments

/-- The moment is the run of a step that is interrupted at a given moment, and `r` comes of it. -/
structure Runs (interrupt : Option Nat) (r : Except Error Unit) (s : Step) (m : Moment) :
    Prop where
  op : m.op = .run s (interrupt.map (· - m.began.now))
  result : m.result = .ran (.value r)

/-- How the runs of steps, one after the other, came out: all of them succeeded, or all up to one
that failed, which is the last. -/
inductive Ran (interrupt : Option Nat) (steps : List Step) :
    List Moment → Except Error Unit → Prop where
  | all {runs} (each : List.Forall₂ (Runs interrupt (.ok ())) steps runs) :
      Ran interrupt steps runs (.ok ())
  | upTo {done s rest runs m e} (order : steps = done ++ s :: rest)
      (each : List.Forall₂ (Runs interrupt (.ok ())) done runs)
      (failed : Runs interrupt (.error e) s m) : Ran interrupt steps (runs ++ [m]) (.error e)

theorem Ran.cons {interrupt : Option Nat} {s : Step} {steps : List Step} {m : Moment}
    {runs : List Moment} {r : Except Error Unit} (first : Runs interrupt (.ok ()) s m)
    (h : Ran interrupt steps runs r) : Ran interrupt (s :: steps) (m :: runs) r := by
  cases h with
  | all each => exact .all (.cons first each)
  | upTo order each failed => exact .upTo (congrArg (List.cons s) order) (.cons first each) failed

/-- The course of a job in its operations, with the exit code and the last line that it calls for.
What comes of the cleanup does not matter. -/
inductive Course (p : Plan) (interrupt : Option Nat) : List Moment → Nat → List UInt8 → Prop where
  | unprepared {first e} (op : first.op = .prepare p.runner p.job)
      (result : first.result = .prepared (.error e)) :
      Course p interrupt [first] 1 (Trace.error ("Job failed during preparation: " ++ e.message))
  | succeeded {first runs last} (op : first.op = .prepare p.runner p.job)
      (result : first.result = .prepared (.ok ())) (ran : Ran interrupt p.steps runs (.ok ()))
      (cleaned : last.op = .cleanup) :
      Course p interrupt (first :: (runs ++ [last])) 0 (Trace.line "Job succeeded")
  | aborted {first runs last} (op : first.op = .prepare p.runner p.job)
      (result : first.result = .prepared (.ok ()))
      (ran : Ran interrupt p.steps runs (.error .aborted)) (cleaned : last.op = .cleanup) :
      Course p interrupt (first :: (runs ++ [last])) 2 (Trace.error "Job aborted")
  | failed {first runs last e} (op : first.op = .prepare p.runner p.job)
      (result : first.result = .prepared (.ok ())) (ran : Ran interrupt p.steps runs (.error e))
      (other : e ≠ .aborted) (cleaned : last.op = .cleanup) :
      Course p interrupt (first :: (runs ++ [last])) 1 (Trace.error ("Job failed: " ++ e.message))

/-- The verdict on what came of the steps. -/
def verdict : Except Error Unit → Verdict
  | .ok () => .succeeded
  | .error e => .failed e

section Finish

variable {connect : ClusterSettings → Except Error Unit} {c : Cluster} {interrupt : Option Nat}
variable {s : Step} {steps : List Step} {x : Executor} {w : World} {e : Error}

theorem finishMoments_of_ok
    (h : (stepMoment connect c interrupt s x w).result = .ran (.value (.ok ()))) :
    finishMoments connect c interrupt (s :: steps) x w =
      stepMoment connect c interrupt s x w ::
        finishMoments connect c interrupt steps (stepMoment connect c interrupt s x w).after
          (stepMoment connect c interrupt s x w).ended := by
  simp only [finishMoments, h]

theorem finishMoments_of_error
    (h : (stepMoment connect c interrupt s x w).result = .ran (.value (.error e))) :
    finishMoments connect c interrupt (s :: steps) x w =
      [stepMoment connect c interrupt s x w,
        moment connect c (stepMoment connect c interrupt s x w).after .cleanup
          (stepMoment connect c interrupt s x w).ended] := by
  simp only [finishMoments, h]

/-- A step comes first among the moments of the steps that begin with it. -/
theorem stepMoment_mem :
    stepMoment connect c interrupt s x w ∈
      finishMoments connect c interrupt (s :: steps) x w := by
  simp only [finishMoments]
  split <;> exact List.mem_cons_self

theorem exists_of_returned
    (returned : (stepMoment connect c interrupt s x w).result.returned = true) :
    ∃ r, (stepMoment connect c interrupt s x w).result = .ran (.value r) := by
  have result : (stepMoment connect c interrupt s x w).result =
      .ran (x.run c s ((interrupt.map (· - w.now)).map (w.now + ·)) w).1 := rfl
  rw [result] at returned ⊢
  cases ended : (x.run c s ((interrupt.map (· - w.now)).map (w.now + ·)) w).1 with
  | value r => exact ⟨r, rfl⟩
  | crash | never | cut => rw [ended] at returned; cases returned

theorem history_finishMoments (steps : List Step) (x : Executor) (w : World) :
    history connect c x ((finishMoments connect c interrupt steps x w).map Moment.op) w =
      finishMoments connect c interrupt steps x w := by
  induction steps generalizing x w with
  | nil => rfl
  | cons s steps ih =>
    simp only [finishMoments]
    split
    · exact congrArg (List.cons _) (ih _ _)
    · rfl
    · rfl

/-- The moments of steps that all come to something, and of the cleanup after them. -/
theorem runSteps_of_returned (steps : List Step) (x : Executor) (w : World)
    (returned : ∀ o ∈ finishMoments connect c interrupt steps x w, o.result.returned = true) :
    ∃ runs r y w', runSteps c interrupt steps x w = (.value r, y, w') ∧
      finishMoments connect c interrupt steps x w = runs ++ [moment connect c y .cleanup w'] ∧
      Ran interrupt steps runs r ∧ w'.events = w.events ++ log runs := by
  induction steps generalizing x w with
  | nil => exact ⟨[], _, x, w, rfl, rfl, .all .nil, (List.append_nil _).symm⟩
  | cons s steps ih =>
    let m := stepMoment connect c interrupt s x w
    obtain ⟨r, result⟩ := exists_of_returned (returned m stepMoment_mem)
    have run := run_eq_stepMoment connect c interrupt s x w result
    have recorded : m.ended.events = w.events ++ m.events := events_moment connect c x _ w
    cases r with
    | ok =>
      rw [finishMoments_of_ok result] at returned ⊢
      obtain ⟨runs, r, y, w', steps_eq, moments_eq, ran, events⟩ :=
        ih m.after m.ended fun o ho => returned o (List.mem_cons_of_mem _ ho)
      refine ⟨m :: runs, r, y, w', ?_, congrArg (List.cons m) moments_eq,
        ran.cons ⟨rfl, result⟩, ?_⟩
      · rw [← steps_eq]
        simp only [runSteps, run]
        rfl
      · rw [events, recorded, List.append_assoc]
        rfl
    | error e =>
      refine ⟨[m], .error e, m.after, m.ended, ?_, finishMoments_of_error result,
        .upTo rfl .nil ⟨rfl, result⟩, ?_⟩
      · simp only [runSteps, run]
        rfl
      · rw [log_singleton]
        exact recorded

/-- Cleaning up ends a job, whatever comes of it. -/
theorem finish_of_runSteps {r : Except Error Unit} {y : Executor} {w' : World}
    (ran : runSteps c interrupt steps x w = (.value r, y, w'))
    (returned : (moment connect c y .cleanup w').result.returned = true) :
    finish c interrupt steps x w =
      (.value (verdict r), (moment connect c y .cleanup w').ended) := by
  have result : (moment connect c y .cleanup w').result = .cleaned (y.cleanup c w').1 := rfl
  have ended : (moment connect c y .cleanup w').ended = (y.cleanup c w').2.2 := rfl
  rw [result] at returned
  rw [ended]
  simp only [finish, ran]
  rcases cleaned : y.cleanup c w' with ⟨outcome | _ | _ | _, z, w''⟩
  case value => cases r <;> rfl
  all_goals
    rw [cleaned] at returned
    cases returned

theorem course_of_ran {p : Plan} {first last : Moment} {runs : List Moment}
    {r : Except Error Unit} (op : first.op = .prepare p.runner p.job)
    (result : first.result = .prepared (.ok ())) (ran : Ran interrupt p.steps runs r)
    (cleaned : last.op = .cleanup) :
    Course p interrupt (first :: (runs ++ [last])) (verdict r).exitCode (verdict r).line := by
  cases r with
  | ok => exact .succeeded op result ran cleaned
  | error e =>
    by_cases aborted : e = .aborted
    · subst aborted
      exact .aborted op result ran cleaned
    · have unaborted : e.isAbort = false := by
        cases e with
        | aborted => exact absurd rfl aborted
        | _ => rfl
      have exit : (verdict (.error e)).exitCode = 1 := by
        simp [verdict, Verdict.exitCode, unaborted]
      have line : (verdict (.error e)).line = Trace.error ("Job failed: " ++ e.message) := by
        simp [verdict, Verdict.line, unaborted]
      rw [exit, line]
      exact .failed op result ran aborted cleaned

/-- A job whose operations return comes to a verdict, which is the last thing that is told. -/
theorem execute_of_returned (p : Plan) (w : World)
    (returned : ∀ o ∈ p.moments connect c interrupt w, o.result.returned = true) :
    ∃ v w', p.execute connect c interrupt w = (.value v, w') ∧
      Course p interrupt (p.moments connect c interrupt w) v.exitCode v.line ∧
      w'.events = w.events ++ log (p.moments connect c interrupt w) ++
        [.output p.job.trace v.line] := by
  let first := moment connect c p.executor (.prepare p.runner p.job) w
  have recorded : first.ended.events = w.events ++ first.events := events_moment connect c _ _ w
  rcases prepared : p.executor.prepare connect p.runner p.job w with ⟨r, x, w'⟩
  have result : first.result = .prepared r := congrArg Result.prepared (congrArg Prod.fst prepared)
  have after : first.after = x := congrArg (·.2.1) prepared
  have ended : first.ended = w' := congrArg (·.2.2) prepared
  cases r with
  | error e =>
    have only : p.moments connect c interrupt w = [first] := by
      simp only [moments]
      rw [show (moment connect c p.executor (.prepare p.runner p.job) w).result =
        .prepared (.error e) from result]
    refine ⟨.unprepared e, w'.record (.output p.job.trace (Verdict.unprepared e).line), ?_, ?_, ?_⟩
    · simp only [execute, prepared]
    · rw [only]
      exact .unprepared rfl result
    · rw [only, World.events_record, ← ended, recorded, log_singleton]
  | ok =>
    have all : p.moments connect c interrupt w =
        first :: finishMoments connect c interrupt p.steps x w' := by
      simp only [moments]
      rw [show (moment connect c p.executor (.prepare p.runner p.job) w).result =
        .prepared (.ok ()) from result, ← after, ← ended]
    rw [all] at returned ⊢
    obtain ⟨runs, r, y, later, steps_eq, moments_eq, ran, events⟩ :=
      runSteps_of_returned p.steps x w' fun o ho => returned o (List.mem_cons_of_mem _ ho)
    have cleaned : (moment connect c y .cleanup later).result.returned = true := by
      refine returned _ (List.mem_cons_of_mem _ ?_)
      rw [moments_eq]
      exact List.mem_append_right _ (List.mem_singleton_self _)
    let told := Event.output p.job.trace (verdict r).line
    refine ⟨verdict r, (moment connect c y .cleanup later).ended.record told, ?_, ?_, ?_⟩
    · simp only [execute, prepared, finish_of_runSteps steps_eq cleaned]
      rfl
    · rw [moments_eq]
      exact course_of_ran rfl result ran rfl
    · rw [World.events_record, events_moment, events, moments_eq, ← ended, recorded]
      simp only [log, List.flatMap_cons, List.flatMap_append, List.append_assoc]
      rfl

/-- The moments of a job are a history of its executor. -/
theorem history_moments (p : Plan) (w : World) :
    history connect c p.executor ((p.moments connect c interrupt w).map Moment.op) w =
      p.moments connect c interrupt w := by
  simp only [moments]
  split
  · exact congrArg (List.cons _) (history_finishMoments ..)
  · rfl

end Finish

/-! ## What a course can do -/

section Course

variable {p : Plan} {interrupt : Option Nat} {steps : List Step} {runs ms : List Moment}
variable {r : Except Error Unit} {o : Moment} {exit : Nat} {line : List UInt8}

theorem run_of_forall₂ {r : Except Error Unit} (h : List.Forall₂ (Runs interrupt r) steps runs)
    (ho : o ∈ runs) : ∃ s a, o.op = .run s a := by
  induction h with
  | nil => cases ho
  | cons run _ ih =>
    rcases List.mem_cons.1 ho with rfl | ho
    · exact ⟨_, _, run.op⟩
    · exact ih ho

theorem Ran.run (h : Ran interrupt steps runs r) (ho : o ∈ runs) : ∃ s a, o.op = .run s a := by
  cases h with
  | all each => exact run_of_forall₂ each ho
  | upTo _ each failed =>
    rcases List.mem_append.1 ho with ho | ho
    · exact run_of_forall₂ each ho
    · rw [List.mem_singleton.1 ho]
      exact ⟨_, _, failed.op⟩

/-- A course begins with the preparation; if there are other operations, they are runs and then the
cleanup. -/
theorem Course.operations (h : Course p interrupt ms exit line) :
    ∃ first, first.op = .prepare p.runner p.job ∧
      ((ms = [first] ∧ ∃ e, first.result = .prepared (.error e)) ∨
        ∃ runs last, ms = (first :: runs) ++ [last] ∧ (∀ o ∈ runs, ∃ s a, o.op = .run s a) ∧
          last.op = .cleanup) := by
  cases h with
  | unprepared op result => exact ⟨_, op, .inl ⟨rfl, _, result⟩⟩
  | succeeded op _ ran cleaned | aborted op _ ran cleaned | failed op _ ran _ cleaned =>
    exact ⟨_, op, .inr ⟨_, _, rfl, fun _ => ran.run, cleaned⟩⟩

theorem Course.exists_last (h : Course p interrupt ms exit line) : ∃ pre m, ms = pre ++ [m] := by
  obtain ⟨first, -, ⟨rfl, -⟩ | ⟨runs, last, rfl, -⟩⟩ := h.operations
  · exact ⟨[], first, rfl⟩
  · exact ⟨_, last, rfl⟩

/-- No other job is prepared. -/
theorem Course.prepare_eq (h : Course p interrupt ms exit line) {runner : Runner} {job : Job}
    (ho : o ∈ ms) (op : o.op = .prepare runner job) : runner = p.runner ∧ job = p.job := by
  obtain ⟨first, first_op, ⟨rfl, -⟩ | ⟨runs, last, rfl, ran, cleaned⟩⟩ := h.operations
  · rw [List.mem_singleton.1 ho, first_op] at op
    injection op with hr hj
    exact ⟨hr.symm, hj.symm⟩
  · rcases List.mem_append.1 ho with ho | ho
    · rcases List.mem_cons.1 ho with rfl | ho
      · rw [first_op] at op
        injection op with hr hj
        exact ⟨hr.symm, hj.symm⟩
      · obtain ⟨s, a, run⟩ := ran o ho
        rw [run] at op
        cases op
    · rw [List.mem_singleton.1 ho, cleaned] at op
      cases op

theorem Course.countP_isCleanup_le (h : Course p interrupt ms exit line) :
    ms.countP (·.op.isCleanup) ≤ 1 := by
  obtain ⟨first, first_op, ⟨rfl, -⟩ | ⟨runs, last, rfl, ran, cleaned⟩⟩ := h.operations
  · exact List.countP_le_length
  · have unclean : (first :: runs).countP (·.op.isCleanup) = 0 := by
      rw [List.countP_eq_zero]
      intro o ho
      rcases List.mem_cons.1 ho with rfl | ho
      · simp [first_op, Operation.isCleanup]
      · obtain ⟨s, a, run⟩ := ran o ho
        simp [run, Operation.isCleanup]
    rw [List.countP_append, unclean, Nat.zero_add]
    exact List.countP_le_length

/-- What the operations of a job are known to do. -/
structure Conducted (p : Plan) (ms : List Moment) : Prop where
  /-- A script goes to the container of its step, with the shell of the job. -/
  asks : ∀ o ∈ ms, ∀ pod request answer, .exec pod request answer ∈ o.events →
    ∃ s a, o.op = .run s a ∧
      request = ⟨if s.predefined then "helper" else "build", p.job.shell.command, s.script⟩
  /-- A step that succeeds has run its script. -/
  executes : ∀ o ∈ ms, o.result = .ran (.value (.ok ())) →
    ∃ pod request, .exec pod request (some (.ok ())) ∈ o.events
  /-- Every pod that was created was handed to deletion, -/
  released : created (log ms) = deleted (log ms)
  /-- and there was one at most. -/
  single : (created (log ms)).length ≤ 1

variable {connect : ClusterSettings → Except Error Unit} {c : Cluster} {connected : Bool}
variable {w : World}

theorem executes_of_moment {x : Executor} {op : Operation}
    (result : (moment connect c x op w).result = .ran (.value (.ok ()))) :
    ∃ pod request, .exec pod request (some (.ok ())) ∈ (moment connect c x op w).events := by
  cases op with
  | prepare | cleanup => cases result
  | run s a =>
    have done : (x.run c s (a.map (w.now + ·)) w).1 = .value (.ok ()) := Result.ran.inj result
    obtain ⟨es, pod, request, he, hexec⟩ := executed_of_run done
    have ended := events_moment connect c x (.run s a) w
    have same : (moment connect c x (.run s a) w).events = es :=
      List.append_cancel_left (ended.symm.trans he)
    exact ⟨pod, request, same ▸ hexec⟩

theorem Course.conducted (h : Course p interrupt ms exit line)
    (along : history connect c (fresh connected) (ms.map Moment.op) w = ms) :
    Conducted p ms := by
  have released : created (log ms) = deleted (log ms) := by
    obtain ⟨first, op, ⟨rfl, e, result⟩ | ⟨runs, last, rfl, -, cleaned⟩⟩ := h.operations
    · have only : history connect c (fresh connected) ([first].map Moment.op) w =
          [] ++ first :: [] := along
      have turn := (tracked_of_history only).2
      rw [log_singleton, turn.events_eq_nil result]
      rfl
    · exact created_eq_deleted along cleaned
  refine ⟨fun o ho pod request answer asked => ?_, fun o ho result => ?_, ?_, ?_⟩
  · obtain ⟨pre, post, split⟩ := List.append_of_mem ho
    obtain ⟨tracked, turn⟩ := tracked_of_history (along.trans split)
    have called : .exec pod request answer ∈ calls o.events := List.mem_filter.2 ⟨asked, rfl⟩
    obtain ⟨s, a, runner, job, op, last, rfl⟩ :=
      (turn.orderly tracked).asks pod request answer called
    obtain ⟨m, hm, prepare⟩ := exists_of_lastAccepted last
    obtain ⟨-, rfl⟩ := h.prepare_eq (split ▸ List.mem_append_left _ hm) prepare
    exact ⟨s, a, op, rfl⟩
  · obtain ⟨pre, post, split⟩ := List.append_of_mem ho
    obtain ⟨-, -, -, -, same, -⟩ := history_split connect c (along.trans split)
    rw [same] at result ⊢
    exact executes_of_moment result
  · exact released
  · have few : (deleted (log ms)).length ≤ ms.countP (·.op.isCleanup) := by
      obtain ⟨pre, m, rfl⟩ := h.exists_last
      exact length_deleted_le along
    rw [released]
    exact Nat.le_trans few h.countP_isCleanup_le

end Course

/-! ## From a job file -/

theorem fresh_of_create {name : String} {x : Executor}
    (h : Registry.standard.create name = .ok x) : x = fresh false := by
  have only : Registry.standard.provider? name =
      if name == Registry.podsName then some (.pods false) else none := by
    show List.lookup name [(Registry.podsName, Provider.pods false)] = _
    rw [List.lookup_cons, List.lookup_nil]
    cases name == Registry.podsName <;> rfl
  rw [Registry.create, only] at h
  cases named : name == Registry.podsName <;> rw [named] at h
  · cases h
  · exact (Except.ok.inj h).symm

theorem exists_of_bind {ε α β : Type} {t : Except ε α} {f : α → Except ε β} {b : β}
    (h : (t >>= f) = .ok b) : ∃ a, t = .ok a ∧ f a = .ok b := by
  cases t with
  | error e => cases h
  | ok a => exact ⟨a, rfl, h⟩

theorem ok_of_toOption {ε α : Type} {t : Except ε α} {a : α} (h : t.toOption = some a) :
    t = .ok a := by
  cases t with
  | error e => cases h
  | ok b => exact congrArg Except.ok (Option.some.inj h)

theorem ok_of_mapError {ε ε' α : Type} {t : Except ε α} {f : ε → ε'} {a : α}
    (h : t.mapError f = .ok a) : t = .ok a := by
  cases t with
  | error e => cases h
  | ok b => exact congrArg Except.ok (Except.ok.inj h)

/-- A plan has an executor that was not used yet, and the steps of the job file, at least one. -/
theorem load_ok {files : Files} {a : Arguments} {p : Plan}
    (h : load files .standard a = .ok p) :
    p.executor = fresh false ∧ ∃ file, jobFile files a.job = .ok file ∧
      p.steps = file.steps.map NamedStep.step ∧ p.steps ≠ [] := by
  unfold load at h
  obtain ⟨config, -, h⟩ := exists_of_bind h
  obtain ⟨runner, -, h⟩ := exists_of_bind h
  obtain ⟨file, read, h⟩ := exists_of_bind h
  obtain ⟨job, -, h⟩ := exists_of_bind h
  split at h
  · cases h
  · rename_i some_step
    obtain ⟨executor, created, h⟩ := exists_of_bind h
    rw [← Except.ok.inj h]
    refine ⟨fresh_of_create (ok_of_mapError created), file, read, rfl, fun none => some_step ?_⟩
    rw [List.map_eq_nil_iff.1 none]
    rfl

/-- The cluster that a plan leads to. -/
def found (connect : ClusterSettings → Except ConnectionFault String) (cluster : String → Cluster)
    (p : Plan) : Cluster :=
  cluster ((connect p.runner.cluster).toOption.getD "")

/-- Let a configuration and a job file be accepted, and let all operations of the job return.  Then
the program prepares the job, runs the steps of the file up to the first that fails, and cleans up
(`Plan.Course`), and its operations do what they should (`Plan.Conducted`).  It ends with the exit
code that this course calls for, having told what the operations told, and then the last line that
this course calls for.  All this does not depend on what connecting comes to. -/
theorem course_of_loaded {files : Files} {a : Arguments} {p : Plan}
    (connect : ClusterSettings → Except ConnectionFault String) (cluster : String → Cluster)
    (interrupt : Option Nat) (loaded : load files .standard a = .ok p)
    (returned : ∀ o ∈ p.moments (connected connect) (p.found connect cluster) interrupt {},
      o.result.returned = true) :
    let ms := p.moments (connected connect) (p.found connect cluster) interrupt {}
    let told := (p.execute (connected connect) (p.found connect cluster) interrupt {}).2
    (∃ file, jobFile files a.job = .ok file ∧ p.steps = file.steps.map NamedStep.step ∧
        p.steps ≠ []) ∧
      history (connected connect) (p.found connect cluster) p.executor (ms.map Moment.op) {} =
        ms ∧
      Conducted p ms ∧
      ∃ exit line, Course p interrupt ms exit line ∧
        told.events = log ms ++ [.output p.job.trace line] ∧
        line <:+ told.output p.job.trace ∧
        Report.ofConnection files connect cluster interrupt (.run a) =
          { exit := some exit, output := told.output p.job.trace } := by
  intro ms told
  have along : history (connected connect) (p.found connect cluster) p.executor
      (ms.map Moment.op) {} = ms := history_moments p {}
  obtain ⟨v, w, executed, course, events⟩ := execute_of_returned p {} returned
  have told_eq : told = w := congrArg Prod.snd executed
  obtain ⟨unused, steps⟩ := load_ok loaded
  refine ⟨steps, along, ?_, v.exitCode, v.line, course, ?_, ?_, ?_⟩
  · rw [unused] at along
    exact course.conducted along
  · rw [told_eq, events]
    rfl
  · rw [told_eq, World.output, events, List.flatMap_append, List.flatMap_singleton]
    exact ⟨_, congrArg (_ ++ ·) (if_pos rfl).symm⟩
  · rw [told_eq]
    simp only [Report.ofConnection, loaded]
    unfold found at executed
    rw [executed]

end Plan

namespace Sample

/-- A configuration without an access file, and a job with two steps. -/
def machine : Machine where
  files path := .ok <| Utf8.encode <|
    if path = "config" then "runners: [\x7bname: r, kubernetes: \x7bimage: i\x7d\x7d]"
    else
      "\x7bid: 1, projectId: 2, buildDir: b, " ++
        "steps: [\x7bscript: x, predefined: true\x7d, \x7bscript: y\x7d]\x7d"
  now := ⟨0, false⟩

/-- The program runs in a cluster, which is found without an access file. -/
def inside : Connector := ⟨some ⟨"https://10.96.0.1:443/", true⟩, fun _ => false, fun _ => false⟩

/-- Every call succeeds, but for every other script. -/
def unreliable : Cluster where
  create n _ := ⟨10, .returns ⟨toString n, "ci"⟩⟩
  state _ _ := ⟨10, .returns ⟨.running, none⟩⟩
  exec n _ _ := ⟨[], 10, if n % 2 = 0 then .returns () else .fails (.commandFailed (some 2) "no")⟩
  delete _ _ := ⟨10, .returns ()⟩

end Sample

open Sample Plan in
/-- Of two steps the second fails: its job is prepared, both are run, and it is cleaned up. -/
theorem sample_course :
    let asked : Arguments := ⟨"config", "job", none, false⟩
    let ways := connect inside machine
    ∃ p line, load machine.files .standard asked = .ok p ∧
      ways p.runner.cluster = .ok "https://10.96.0.1:443/" ∧
      (p.moments (connected ways) unreliable none {}).length = 4 ∧
      Course p none (p.moments (connected ways) unreliable none {}) 1 line ∧
      (Report.ofConnection machine.files ways (fun _ => unreliable) none (.run asked)).exit =
        some 1 := by
  intro asked ways
  have checked : ((load machine.files .standard asked).toOption.any fun p =>
        decide ((ways p.runner.cluster).toOption = some "https://10.96.0.1:443/") &&
          ((p.moments (connected ways) unreliable none {}).length = 4 &&
            (p.moments (connected ways) unreliable none {}).all (·.result.returned))) = true ∧
      (Report.ofConnection machine.files ways (fun _ => unreliable) none (.run asked)).exit =
        some 1 := by
    decide +kernel
  obtain ⟨p, there, known⟩ := (Option.any_eq_true ..).1 checked.1
  have loaded := ok_of_toOption there
  obtain ⟨leads, known⟩ := Bool.and_eq_true_iff.1 known
  obtain ⟨length, returned⟩ := Bool.and_eq_true_iff.1 known
  obtain ⟨-, -, -, exit, line, course, -, -, report⟩ :=
    course_of_loaded ways (fun _ => unreliable) none loaded (List.all_eq_true.1 returned)
  have ended := checked.2
  rw [report] at ended
  obtain rfl : exit = 1 := Option.some.inj ended
  exact ⟨p, line, loaded, ok_of_toOption (of_decide_eq_true leads), of_decide_eq_true length,
    course, checked.2⟩

end PodRunner
