import PodRunner.Cluster.World
import PodRunner.Trace

/-!
# Tasks in virtual time

A `Task` acts on the world and ends with a value, crashes, or waits forever for a call.  It is run
with a moment at which it is interrupted, if there is one: what would happen at that moment or later
does not happen.  `Task.until` interrupts a task that would begin too late before its first action.
-/

namespace PodRunner

/-- How a task ends. -/
inductive Ended (α : Type) where
  | value (a : α)
  | crash (text : String)
  /-- A call in it never returns. -/
  | never
  /-- It was interrupted. -/
  | cut

/-- A task, given the moment at which it is interrupted. -/
def Task (α : Type) : Type := Option Nat → World → Ended α × World

namespace Task

variable {α β : Type}

protected def pure (a : α) : Task α := fun _ w => (.value a, w)

protected def bind (t : Task α) (f : α → Task β) : Task β := fun deadline w =>
  match t deadline w with
  | (.value a, w) => f a deadline w
  | (.crash m, w) => (.crash m, w)
  | (.never, w) => (.never, w)
  | (.cut, w) => (.cut, w)

instance : Monad Task where
  pure := Task.pure
  bind := Task.bind

/-- The moment lies before the interruption. -/
def before (t : Nat) : Option Nat → Bool
  | some deadline => t < deadline
  | none => true

/-- The world at the moment of interruption. -/
def interrupted (deadline : Option Nat) (w : World) : World :=
  { w with now := max w.now (deadline.getD w.now) }

/-- Lets time pass. -/
def pause (ms : Nat) : Task Unit := fun deadline w =>
  if before (w.now + ms) deadline then (.value (), { w with now := w.now + ms })
  else (.cut, interrupted deadline w)

/-- Waits for what never comes. -/
def forever : Task α := fun deadline w =>
  if deadline.isSome then (.cut, interrupted deadline w) else (.never, w)

def record (e : Event) : Task Unit := fun _ w => (.value (), w.record e)

def crash (text : String) : Task α := fun _ w => (.crash text, w)

/-- Writes to a trace. -/
def output (trace : String) (bytes : List UInt8) : Task Unit := record (.output trace bytes)

/-- Waits for the answer of a call. -/
def settle (r : Reply α) : Task (Except ClusterError α) := do
  pause r.delay
  match r.outcome with
  | .returns a => pure (.ok a)
  | .fails e => pure (.error e)
  | .crashes text => crash text
  | .hangs => forever

/-- Writes output piece by piece, and then waits for the answer of the call. -/
def stream (trace : String) (r : Reply α) : List Piece → Task (Except ClusterError α)
  | [], deadline, w => settle r deadline w
  | piece :: pieces, deadline, w =>
    (do
      pause piece.delay
      output trace piece.bytes
      stream trace r pieces : Task _) deadline w

/-- The answer of a call that starts now, if it comes before the interruption. -/
def answer? (r : Reply α) (deadline : Option Nat) (now : Nat) :
    Option (Except ClusterError α) :=
  if before (now + r.delay) deadline then r.outcome.answer? else none

/-- Interrupts the task at a moment, before it begins if the moment has come. -/
def «until» (t : Task α) (deadline : Option Nat) (w : World) : Ended α × World :=
  if before w.now deadline then t deadline w else (.cut, w)

end Task

/-! ## Calls -/

namespace Cluster

def createPod (c : Cluster) (spec : JobPod) : Task (Except ClusterError PodRef) :=
  fun deadline w =>
    let r := c.create w.counts.create spec
    let w := { w with counts.create := w.counts.create + 1 }
    Task.settle r deadline (w.record (.create spec (Task.answer? r deadline w.now)))

def podState (c : Cluster) (pod : PodRef) : Task (Except ClusterError PodState) :=
  fun deadline w =>
    let r := c.state w.counts.state pod
    let w := { w with counts.state := w.counts.state + 1 }
    Task.settle r deadline (w.record (.state pod (Task.answer? r deadline w.now)))

def deletePod (c : Cluster) (pod : PodRef) : Task (Except ClusterError Unit) :=
  fun deadline w =>
    let r := c.delete w.counts.delete pod
    let w := { w with counts.delete := w.counts.delete + 1 }
    Task.settle r deadline (w.record (.delete pod (Task.answer? r deadline w.now)))

/-- Runs a script in a container of the pod, with its output to the trace. -/
def execIn (c : Cluster) (pod : PodRef) (request : ExecRequest) (trace : String) :
    Task (Except ClusterError Unit) :=
  fun deadline w =>
    let ⟨output, r⟩ := c.exec w.counts.exec pod request
    let w := { w with counts.exec := w.counts.exec + 1 }
    let answer := Task.answer? (r.behind output) deadline w.now
    Task.stream trace r output deadline (w.record (.exec pod request answer))

end Cluster

end PodRunner
