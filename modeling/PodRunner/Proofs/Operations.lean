import PodRunner.Executor
import PodRunner.Proofs.Tasks

/-!
# Operations case by case

What `run` and `cleanup` come to, by what the executor holds and by the answer of the cluster.  A
run that creates its pod goes on like a run with that pod (`Executor.run_of_created`).
-/

namespace PodRunner.Executor

variable {c : Cluster} {x : Executor} {s : Step} {abort : Option Nat} {w w' : World}
variable {p : Prepared} {polling : PollSettings} {pod : PodRef}

/-- A step of a prepared job as a task in its pod. -/
def stepTask (c : Cluster) (p : Prepared) (polling : PollSettings) (pod : PodRef) (s : Step) :
    Task (Except Error Unit) :=
  c.runScript polling pod (request p s) p.job.trace

/-- What a step comes to of which only the creation of its pod is known. -/
def creationResult (r : Ended (Except ClusterError PodRef)) : Ended (Except Error Unit) :=
  r.map fun answer => (answer.map fun _ => ()).mapError .podCreation

/-- Without a pod it comes to the failure of the creation, if it comes to anything. -/
theorem creationResult_of_failed {r : Ended (Except ClusterError PodRef)} {v : Except Error Unit}
    (failed : ∀ pod, r.value? ≠ some (.ok pod)) (h : creationResult r = .value v) :
    ∃ e, v = .error (.podCreation e) := by
  rcases r with (e | pod) | _ | _ | _
  case value.error => exact ⟨e, (Ended.value.inj h).symm⟩
  case value.ok => exact absurd rfl (failed pod)
  all_goals cases h

/-! ## Running a step -/

theorem run_of_unprepared (lacking : x.prepared = none ∨ x.polling = none) :
    x.run c s abort w = (.value (.error .notPrepared), x, w) := by
  have h : x.ensurePod c w = (.value (.error .notPrepared), x, w) := by
    unfold ensurePod
    rcases lacking with h | h
    · simp only [h]
    · cases hp : x.prepared <;> simp only [h]
  simp only [run, h]

theorem run_of_held (prepared : x.prepared = some p) (waits : x.polling = some polling)
    (held : x.pod = some pod) :
    x.run c s abort w =
      (joined ((stepTask c p polling pod s).until abort w).1, x,
        ((stepTask c p polling pod s).until abort w).2) := by
  have h : x.ensurePod c w = (.value (.ok (p, polling, pod)), x, w) := by
    simp only [ensurePod, prepared, waits, held]
  simp only [run, h]
  rfl

section Free

variable (prepared : x.prepared = some p) (waits : x.polling = some polling) (free : x.pod = none)

include prepared waits free

theorem run_of_created (made : c.createPod p.podSpec none w = (.value (.ok pod), w')) :
    x.run c s abort w = { x with pod := some pod }.run c s abort w' := by
  have h : x.ensurePod c w = (.value (.ok (p, polling, pod)), { x with pod := some pod }, w') := by
    simp only [ensurePod, prepared, waits, free, made]
  rw [run_of_held (x := { x with pod := some pod }) prepared waits rfl]
  simp only [run, h]
  rfl

/-- Without a pod in answer to its call, a run leaves the executor as it was. -/
theorem run_of_uncreated {r : Ended (Except ClusterError PodRef)}
    (made : c.createPod p.podSpec none w = (r, w')) (failed : ∀ pod, r.value? ≠ some (.ok pod)) :
    x.run c s abort w = (creationResult r, x, w') := by
  match r with
  | .value (.ok pod) => exact absurd rfl (failed pod)
  | .value (.error _) | .crash _ | .never | .cut =>
    simp only [run, ensurePod, prepared, waits, free, made]
    rfl

end Free

/-! ## Cleaning up -/

theorem cleanup_of_free (free : x.pod = none) :
    x.cleanup c w = (.value .nothingToDelete, x, w) := by
  simp only [cleanup, free]

theorem cleanup_of_lacking (held : x.pod = some pod) (lacking : x.polling = none) :
    x.cleanup c w = (.value .nothingToDelete, { x with pod := none }, w) := by
  simp only [cleanup, held, lacking]

/-- What cleaning up comes to after a pod was handed to deletion. -/
def cleanupResult (pod : PodRef) (r : Ended (Except ClusterError Unit)) : Ended Cleanup :=
  r.map fun
    | .ok () => .deleted pod
    | .error e => .failed pod e

/-- What cleaning up writes to the trace of a job. -/
def cleanupNotes (prepared : Option Prepared) : Option (Except ClusterError Unit) → List Event
  | some (.error e) =>
    prepared.toList.map fun p => .output p.job.trace (Trace.error (cleanupLine e))
  | _ => []

/-- A pod that is held is handed to deletion and held no longer, and a failure is noted. -/
theorem cleanup_of_held (held : x.pod = some pod) (waits : x.polling = some polling) :
    x.cleanup c w =
      (cleanupResult pod (c.deletePod pod none w).1, { x with pod := none },
        (cleanupNotes x.prepared (c.deletePod pod none w).1.value?).foldl World.record
          (c.deletePod pod none w).2) := by
  simp only [cleanup, held, waits]
  rcases c.deletePod pod none w with ⟨(e | _) | _ | _ | _, w'⟩
  · cases x.prepared <;> rfl
  all_goals rfl

end PodRunner.Executor
