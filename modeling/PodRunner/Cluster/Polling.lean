import PodRunner.Cluster.Task

/-!
# Waiting for a pod to run

`Cluster.awaitRunning` looks at a pod again and again until it has left its pending phase, is known
to be stuck, is gone, or the budget of attempts is used up.  It sleeps between two attempts only.
-/

namespace PodRunner.Cluster

/-- The line for a pod that is pending. -/
def waitingLine (pod : PodRef) : String :=
  "Waiting for pod " ++ pod.text ++ " to be running, status is " ++ Phase.pending.text

/-- The line for a failed look at a pod. -/
def retryLine (pod : PodRef) (e : ClusterError) : String :=
  "Failed to get status of pod " ++ pod.text ++ ", retrying: " ++ e.message

/-- What one look at a pod means. -/
inductive Look where
  /-- Polling is over. -/
  | decided (result : Except Error Phase)
  /-- Polling goes on; the line is written to the trace. -/
  | pending (line : List UInt8) (lastError : Option ClusterError)

/-- The pod has left its pending phase, cannot start, or is gone; or else there is nothing to do but
wait. -/
def look (pod : PodRef) : Except ClusterError PodState → Look
  | .ok s =>
    if s.phase ≠ .pending then .decided (.ok s.phase)
    else
      match s.waiting with
      | some reason =>
        .decided (.error (.podNotRunning (s.phase.text ++ " (" ++ reason ++ ")")))
      | none => .pending (Trace.line (waitingLine pod)) none
  | .error e =>
    if e.notFound then .decided (.error (.podStatus e))
    else .pending (Trace.warning (retryLine pod e)) (some e)

/-- What is reported when the last look at a pod decided nothing. -/
def exhausted (pod : PodRef) : Option ClusterError → Error
  | some e => .podStatus e
  | none => .podStartTimeout pod.text .pending

/-- Looks at the pod once; `next` goes on when nothing is decided. -/
def attempt (c : Cluster) (pod : PodRef) (trace : String)
    (next : Option ClusterError → Task (Except Error Phase)) : Task (Except Error Phase) := do
  match look pod (← c.podState pod) with
  | .decided result => return result
  | .pending line lastError =>
    Task.output trace line
    next lastError

/-- Looks at the pod up to `n + 1` times, with a sleep between two looks. -/
def poll (c : Cluster) (interval : Duration) (pod : PodRef) (trace : String) :
    Nat → Task (Except Error Phase)
  | 0 => c.attempt pod trace fun lastError => return .error (exhausted pod lastError)
  | n + 1 => c.attempt pod trace fun _ => do
    Task.pause interval.ticks
    c.poll interval pod trace n

/-- Waits until the pod runs, or has left its pending phase in another way. -/
def awaitRunning (c : Cluster) (settings : PollSettings) (pod : PodRef) (trace : String) :
    Task (Except Error Phase) :=
  c.poll settings.interval pod trace (settings.attempts - 1)

/-- Waits for the pod to run, and runs a script in one of its containers. -/
def runScript (c : Cluster) (settings : PollSettings) (pod : PodRef) (request : ExecRequest)
    (trace : String) : Task (Except Error Unit) := do
  match ← c.awaitRunning settings pod trace with
  | .error e => return .error e
  | .ok phase =>
    if phase ≠ .running then return .error (.podNotRunning phase.text)
    match ← c.execIn pod request trace with
    | .error e => return .error (.execution e)
    | .ok () => return .ok ()

end PodRunner.Cluster
