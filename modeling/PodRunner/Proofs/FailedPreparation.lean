import PodRunner.Proofs.CallOrder
import PodRunner.Proofs.Outcome

/-!
# Preparations that fail

A preparation that fails is as good as none: it changes nothing, and a history without it is the
same history with that one moment left out.  Only preparations that succeed make a difference to
later runs, and a run is refused as unprepared exactly when there was none before it
(`Executor.failed_prepare_erasable`).
-/

namespace PodRunner

/-- A job with a shell that wants its script in a file. -/
def Sample.fileJob : Job := { job with shell := ⟨"cmd", true, ["cmd"]⟩ }

namespace Executor

/-! ## One moment -/

/-- A preparation that fails leaves everything as it was. -/
theorem prepare_of_error {connect : ClusterSettings → Except Error Unit} {x : Executor}
    {runner : Runner} {job : Job} {w : World} {e : Error}
    (h : (x.prepare connect runner job w).1 = .error e) :
    x.prepare connect runner job w = (.error e, x, w) := by
  unfold prepare at h ⊢
  cases settled : Prepared.resolve runner job with
  | error cause =>
    simp only [settled] at h ⊢
    rw [h]
  | ok p =>
    cases connection : (if x.connected then .ok () else connect runner.cluster :
        Except Error Unit) with
    | error cause =>
      simp only [settled, connection] at h ⊢
      rw [h]
    | ok => simp [settled, connection] at h

variable {connect : ClusterSettings → Except Error Unit} {c : Cluster} {connected : Bool}
variable {ops : List Operation} {w : World} {pre post : List Moment} {m : Moment}

theorem Moment.events_of_unchanged (h : m.ended = m.began) : m.events = [] := by
  rw [Moment.events, h, List.drop_length]

theorem moment_of_failed_prepare {x : Executor} {op : Operation} {e : Error}
    (failed : (moment connect c x op w).result = .prepared (.error e)) :
    (∃ runner job, op = .prepare runner job) ∧ (moment connect c x op w).after = x ∧
      (moment connect c x op w).ended = w := by
  cases op with
  | run | cleanup => cases failed
  | prepare runner job =>
    have refused : (x.prepare connect runner job w).1 = .error e := Result.prepared.inj failed
    have unchanged := prepare_of_error refused
    exact ⟨⟨runner, job, rfl⟩, congrArg (·.2.1) unchanged, congrArg (·.2.2) unchanged⟩

theorem moment_of_unprepared {x : Executor} {step : Step} {abort : Option Nat}
    (unprepared : x.prepared = none) :
    (moment connect c x (.run step abort) w).result = .ran (.value (.error .notPrepared)) ∧
      (moment connect c x (.run step abort) w).after = x ∧
      (moment connect c x (.run step abort) w).ended = w := by
  have refused :
      x.run c step (abort.map (w.now + ·)) w = (.value (.error .notPrepared), x, w) :=
    run_of_unprepared (.inl unprepared)
  exact ⟨congrArg Result.ran (congrArg Prod.fst refused), congrArg (·.2.1) refused,
    congrArg (·.2.2) refused⟩

/-! ## Every history -/

/-- Nothing is prepared as long as no preparation has succeeded. -/
theorem prepared_eq_none_iff (h : history connect c (fresh connected) ops w = pre ++ m :: post) :
    m.before.prepared = none ↔ ∀ n ∈ pre, accepted? n.op n.result = none := by
  obtain ⟨tracked, -⟩ := tracked_of_history h
  have settled := tracked.settled
  constructor
  · intro unprepared
    have nothing : lastAccepted pre = none := tracked.last_eq_none (.inl unprepared)
    rw [lastAccepted, List.getLast?_eq_none_iff] at nothing
    exact List.filterMap_eq_nil_iff.1 nothing
  · intro nothing
    have unsettled : lastAccepted pre = none := by
      rw [lastAccepted, List.filterMap_eq_nil_iff.2 nothing]
      rfl
    rw [unsettled] at settled
    exact Option.map_eq_none_iff.1 settled.symm

theorem refused_iff_unprepared (h : history connect c (fresh connected) ops w = pre ++ m :: post)
    {step : Step} {abort : Option Nat} (hop : m.op = .run step abort) :
    m.result = .ran (.value (.error .notPrepared)) ↔ m.before.prepared = none := by
  obtain ⟨-, -, -, -, same, -, -⟩ := history_split connect c h
  obtain ⟨tracked, -⟩ := tracked_of_history h
  rw [hop] at same
  constructor
  · intro refused
    cases prepared : m.before.prepared with
    | none => rfl
    | some p =>
      obtain ⟨polling, waits⟩ := tracked.coherent.exists_polling prepared
      rw [same] at refused
      exact absurd (Result.ran.inj refused) (run_ne_notPrepared prepared waits)
  · intro unprepared
    rw [same]
    exact (moment_of_unprepared unprepared).1

/-- Leaving out a preparation that failed leaves out its moment. -/
theorem history_without (h : history connect c (fresh connected) ops w = pre ++ m :: post)
    {e : Error} (failed : m.result = .prepared (.error e)) :
    ∃ before runner job after, ops = before ++ .prepare runner job :: after ∧
      before.length = pre.length ∧
      history connect c (fresh connected) (before ++ after) w = pre ++ post := by
  obtain ⟨before, after, rfl, length, same, next, upTo⟩ := history_split connect c h
  rw [same] at failed
  obtain ⟨⟨runner, job, hop⟩, unchanged, silent⟩ := moment_of_failed_prepare failed
  rw [← same] at unchanged silent
  refine ⟨before, runner, job, after, by rw [hop], length, ?_⟩
  rw [upTo, next, unchanged, silent]

/-- A preparation that fails makes no call, writes nothing and leaves the executor as it was, and
without it all other operations come to the same.  So a run is refused as unprepared, and then
without a call, exactly when no preparation before it has succeeded. -/
theorem failed_prepare_erasable
    (h : history connect c (fresh connected) ops w = pre ++ m :: post) :
    (∀ e, m.result = .prepared (.error e) →
      m.events = [] ∧ m.after = m.before ∧ m.ended = m.began ∧
        ∃ before runner job after, ops = before ++ .prepare runner job :: after ∧
          before.length = pre.length ∧
          history connect c (fresh connected) (before ++ after) w = pre ++ post) ∧
    ∀ step abort, m.op = .run step abort →
      (m.result = .ran (.value (.error .notPrepared)) ↔
        ∀ n ∈ pre, accepted? n.op n.result = none) ∧
      (m.result = .ran (.value (.error .notPrepared)) →
        m.events = [] ∧ m.after = m.before ∧ m.ended = m.began) := by
  obtain ⟨-, -, -, -, same, -, -⟩ := history_split connect c h
  refine ⟨fun e failed => ?_, fun step abort hop => ?_⟩
  · have erased := history_without h failed
    rw [same] at failed
    obtain ⟨-, unchanged, silent⟩ := moment_of_failed_prepare failed
    rw [← same] at unchanged silent
    exact ⟨Moment.events_of_unchanged silent, unchanged, silent, erased⟩
  · rw [refused_iff_unprepared h hop, prepared_eq_none_iff h]
    refine ⟨Iff.rfl, fun nothing => ?_⟩
    have unprepared := (prepared_eq_none_iff h).2 nothing
    rw [hop] at same
    have still : m.after = m.before ∧ m.ended = m.began := by
      rw [same]
      exact (moment_of_unprepared unprepared).2
    exact ⟨Moment.events_of_unchanged still.2, still⟩

open Sample in
/-- A preparation that fails while a pod is held is left out, and the run after it comes to the
same; a run after nothing but such a preparation is refused. -/
theorem sample_failed_prepare :
    (∃ pre m post,
      trial [.prepare runner job, .run step none, .run step none, .prepare runner fileJob,
          .run step none] = pre ++ m :: post ∧
        m.before.pod = some ⟨"1", "ci"⟩ ∧
        m.result = .prepared (.error (.unsupportedShell "cmd")) ∧
        m.events = [] ∧ m.after = m.before ∧ m.ended = m.began ∧
        trial [.prepare runner job, .run step none, .run step none, .run step none] =
          pre ++ post) ∧
    ∃ pre m post,
      trial [.prepare runner fileJob, .run step none] = pre ++ m :: post ∧
        m.result = .ran (.value (.error .notPrepared)) ∧ m.events = [] := by
  refine ⟨?_, ?_⟩
  · have h : trial [.prepare runner job, .run step none, .run step none, .prepare runner fileJob,
        .run step none] = [_, _, _] ++ _ :: [_] := rfl
    obtain ⟨silent, unchanged, still, before, _, _, after, split, length, erased⟩ :=
      (failed_prepare_erasable h).1 (.unsupportedShell "cmd") rfl
    have parts : [.prepare runner job, .run step none, .run step none] ++
        .prepare runner fileJob :: [.run step none] = before ++ .prepare _ _ :: after := split
    obtain ⟨rfl, same⟩ := List.append_inj parts length.symm
    obtain ⟨-, rfl⟩ := List.cons.inj same
    exact ⟨_, _, _, h, rfl, rfl, silent, unchanged, still, erased⟩
  · have h : trial [.prepare runner fileJob, .run step none] = [_] ++ _ :: [] := rfl
    obtain ⟨refused_iff, silent⟩ := (failed_prepare_erasable h).2 step none rfl
    have refused := refused_iff.2 (List.forall_mem_singleton.2 rfl)
    exact ⟨_, _, _, h, refused, (silent refused).1⟩

end Executor

end PodRunner
