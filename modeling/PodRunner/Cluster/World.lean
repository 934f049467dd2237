import PodRunner.Error
import PodRunner.Pod.Spec

/-!
# The cluster and what happened

A `Cluster` says what every call comes to: the call's number among those of its kind and its
argument decide its `Reply`, an outcome after some virtual time; a script writes output before its
reply, piece by piece (`Execution`).  A `World` is the time that has passed, how many calls of each
kind there were, and the events so far: calls with their answers, and job output.
-/

namespace PodRunner

/-- What a call comes to. -/
inductive Outcome (α : Type) where
  | returns (a : α)
  | fails (e : ClusterError)
  | crashes (text : String)
  /-- The call never returns. -/
  | hangs

/-- An outcome after a delay in milliseconds. -/
structure Reply (α : Type) where
  delay : Nat := 0
  outcome : Outcome α

/-- The answer of a call, if it gives one. -/
def Outcome.answer? {α : Type} : Outcome α → Option (Except ClusterError α)
  | returns a => some (.ok a)
  | fails e => some (.error e)
  | crashes _ | hangs => none

/-- A script to run in a container. -/
structure ExecRequest where
  container : String
  command : List String
  script : String
  deriving DecidableEq

/-- The request as a log shows it: of the script only its length in bytes. -/
def ExecRequest.summary (r : ExecRequest) : String :=
  "ExecRequest \x7b container: " ++ Quoted.text r.container ++ ", command: " ++
    Quoted.list r.command ++ ", stdin_len: " ++ toString r.script.utf8ByteSize ++ ", .. \x7d"

/-- Output of a script, written some milliseconds after what came before it. -/
structure Piece where
  delay : Nat := 0
  bytes : List UInt8

/-- What the execution of a script comes to: its output, and then the reply. -/
structure Execution where
  output : List Piece := []
  /-- It is counted from the last piece of the output. -/
  reply : Reply Unit

/-- The milliseconds that it takes to write output. -/
def Piece.total : List Piece → Nat
  | [] => 0
  | piece :: pieces => piece.delay + total pieces

/-- The reply, counted from where the output before it begins. -/
def Reply.behind {α : Type} (r : Reply α) (output : List Piece) : Reply α :=
  ⟨Piece.total output + r.delay, r.outcome⟩

theorem Reply.behind_nil {α : Type} (r : Reply α) : r.behind [] = r := by
  simp [behind, Piece.total]

theorem Reply.delay_behind_cons {α : Type} (r : Reply α) (piece : Piece) (pieces : List Piece) :
    (r.behind (piece :: pieces)).delay = piece.delay + (r.behind pieces).delay :=
  Nat.add_assoc ..

/-- Output that is written at once. -/
instance : Coe (List (List UInt8) × Reply Unit) Execution where
  coe x := ⟨x.1.map (⟨0, ·⟩), x.2⟩

/-- What the calls of each kind come to, by their number from zero on. -/
structure Cluster where
  create : Nat → JobPod → Reply PodRef
  state : Nat → PodRef → Reply PodState
  exec : Nat → PodRef → ExecRequest → Execution
  delete : Nat → PodRef → Reply Unit

/-- Calls and output.  A call without an answer crashed, never returned or was cut off. -/
inductive Event where
  | create (pod : JobPod) (answer : Option (Except ClusterError PodRef))
  | state (pod : PodRef) (answer : Option (Except ClusterError PodState))
  | exec (pod : PodRef) (request : ExecRequest) (answer : Option (Except ClusterError Unit))
  | delete (pod : PodRef) (answer : Option (Except ClusterError Unit))
  | output (trace : String) (bytes : List UInt8)

/-- How many calls of each kind there were. -/
structure Counts where
  create : Nat := 0
  state : Nat := 0
  exec : Nat := 0
  delete : Nat := 0
  deriving DecidableEq, Repr

structure World where
  /-- Milliseconds that have passed. -/
  now : Nat := 0
  counts : Counts := {}
  /-- The events, the last first. -/
  past : List Event := []

namespace World

/-- The events in their order. -/
def events (w : World) : List Event := w.past.reverse

def record (w : World) (e : Event) : World := { w with past := e :: w.past }

@[simp] theorem events_record (w : World) (e : Event) : (w.record e).events = w.events ++ [e] := by
  simp [events, record]

/-- The output of a trace. -/
def output (w : World) (trace : String) : List UInt8 :=
  w.events.flatMap fun
    | .output name bytes => if name = trace then bytes else []
    | _ => []

/-- The same moment, with its events forgotten. -/
def forget (w : World) : World := { w with past := [] }

end World

end PodRunner
