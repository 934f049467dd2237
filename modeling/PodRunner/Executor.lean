import PodRunner.Cluster.Polling

/-!
# The executor

An executor runs the steps of one job at a time in one pod.  `Executor.prepare` settles everything
about a job; `Executor.run` creates the pod when the first step needs it and runs a step in it,
until the step is aborted; `Executor.cleanup` deletes the pod.  A failing deletion is told to the
job's reader and changes nothing else.
-/

namespace PodRunner

/-- A step of a job. -/
structure Step where
  script : String
  /-- The step is the runner's own. -/
  predefined : Bool := false

/-- The container in which the step runs. -/
def Step.role (s : Step) : Role := if s.predefined then .helper else .build

structure Executor where
  /-- There is a connection to the cluster. -/
  connected : Bool
  prepared : Option Prepared := none
  /-- How to wait for pods; there from the first successful `prepare` on. -/
  polling : Option PollSettings := none
  /-- The pod that was created and not yet handed to deletion. -/
  pod : Option PodRef := none

/-- What became of the pod. -/
inductive Cleanup where
  | nothingToDelete
  | deleted (pod : PodRef)
  | failed (pod : PodRef) (cause : ClusterError)

namespace Executor

/-- An executor that holds a connection. -/
def withConnection : Executor := ⟨true, none, none, none⟩

/-- An executor that connects when it first prepares a job. -/
def unconnected : Executor := ⟨false, none, none, none⟩

/-- The first line of a job's output. -/
def greeting (image : String) : String := "Using Kubernetes executor with image " ++ image ++ " ..."

/-- Settles a job, connecting first if need be.  What fails leaves everything as it was. -/
def prepare (connect : ClusterSettings → Except Error Unit) (x : Executor) (runner : Runner)
    (job : Job) (w : World) : Except Error Unit × Executor × World :=
  match Prepared.resolve runner job with
  | .error e => (.error e, x, w)
  | .ok p =>
    match if x.connected then .ok () else connect runner.cluster with
    | .error e => (.error e, x, w)
    | .ok () =>
      (.ok (),
        { x with connected := true, prepared := some p, polling := some runner.cluster.poll },
        w.record (.output job.trace (Trace.line (greeting p.image))))

/-- The prepared job, its polling settings and its pod, which is created if there is none. -/
def ensurePod (c : Cluster) (x : Executor) (w : World) :
    Ended (Except Error (Prepared × PollSettings × PodRef)) × Executor × World :=
  match x.prepared, x.polling with
  | some p, some polling =>
    match x.pod with
    | some pod => (.value (.ok (p, polling, pod)), x, w)
    | none =>
      match c.createPod p.podSpec none w with
      | (.value (.ok pod), w) =>
        (.value (.ok (p, polling, pod)), { x with pod := some pod }, w)
      | (.value (.error e), w) => (.value (.error (.podCreation e)), x, w)
      | (.crash text, w) => (.crash text, x, w)
      | (.never, w) => (.never, x, w)
      | (.cut, w) => (.cut, x, w)
  | _, _ => (.value (.error .notPrepared), x, w)

/-- What is reported of a crash while a step runs. -/
def crashReport (text : String) : Error :=
  .execution (.stream ("exec task ended unexpectedly: task N panicked with message " ++
    Quoted.text text))

/-- What a step run as a task comes to: an interruption is an abort, a crash a broken session. -/
def joined : Ended (Except Error Unit) → Ended (Except Error Unit)
  | .value r => .value r
  | .crash text => .value (.error (crashReport text))
  | .never => .never
  | .cut => .value (.error .aborted)

/-- The request that a step makes of its container. -/
def request (p : Prepared) (s : Step) : ExecRequest :=
  ⟨s.role.text, p.job.shell.command, s.script⟩

/-- Runs a step, until the moment `abort` if there is one.  The creation of the pod cannot be
aborted. -/
def run (c : Cluster) (x : Executor) (s : Step) (abort : Option Nat) (w : World) :
    Ended (Except Error Unit) × Executor × World :=
  match x.ensurePod c w with
  | (.value (.ok (p, polling, pod)), x, w) =>
    let (ended, w) := (c.runScript polling pod (request p s) p.job.trace).until abort w
    (joined ended, x, w)
  | (.value (.error e), x, w) => (.value (.error e), x, w)
  | (.crash text, x, w) => (.crash text, x, w)
  | (.never, x, w) => (.never, x, w)
  | (.cut, x, w) => (.cut, x, w)

/-- What is told to the job's reader when the pod could not be deleted. -/
def cleanupLine (e : ClusterError) : String := "Error cleaning up pod: " ++ e.message

/-- Deletes the pod that is held.  It is no longer held, whatever comes of it. -/
def cleanup (c : Cluster) (x : Executor) (w : World) : Ended Cleanup × Executor × World :=
  match x.pod with
  | none => (.value .nothingToDelete, x, w)
  | some pod =>
    let x := { x with pod := none }
    match x.polling with
    | none => (.value .nothingToDelete, x, w)
    | some _ =>
      match c.deletePod pod none w with
      | (.value (.ok ()), w) => (.value (.deleted pod), x, w)
      | (.value (.error e), w) =>
        let w :=
          match x.prepared with
          | some p => w.record (.output p.job.trace (Trace.error (cleanupLine e)))
          | none => w
        (.value (.failed pod e), x, w)
      | (.crash text, w) => (.crash text, x, w)
      | (.never, w) => (.never, x, w)
      | (.cut, w) => (.cut, x, w)

/-! ## Histories -/

/-- One use of an executor. -/
inductive Operation where
  | prepare (runner : Runner) (job : Job)
  /-- The abort comes so many milliseconds after the start, if at all. -/
  | run (step : Step) (abortAfter : Option Nat)
  | cleanup

/-- What one use comes to. -/
inductive Result where
  | prepared (r : Except Error Unit)
  | ran (r : Ended (Except Error Unit))
  | cleaned (r : Ended Cleanup)

/-- Performs one operation. -/
def perform (connect : ClusterSettings → Except Error Unit) (c : Cluster) (x : Executor)
    (op : Operation) (w : World) : Result × Executor × World :=
  match op with
  | .prepare runner job =>
    let (r, x, w) := x.prepare connect runner job w
    (.prepared r, x, w)
  | .run step abortAfter =>
    let (r, x, w) := x.run c step (abortAfter.map (w.now + ·)) w
    (.ran r, x, w)
  | .cleanup =>
    let (r, x, w) := x.cleanup c w
    (.cleaned r, x, w)

/-- Performs operations in order. -/
def performAll (connect : ClusterSettings → Except Error Unit) (c : Cluster) (x : Executor) :
    List Operation → World → List Result × Executor × World
  | [], w => ([], x, w)
  | op :: ops, w =>
    let (r, x, w) := x.perform connect c op w
    let (rs, x, w) := x.performAll connect c ops w
    (r :: rs, x, w)

end Executor

end PodRunner
