import PodRunner.Api.Object.Status
import PodRunner.Error
import PodRunner.Text.Blank

/-!
# How a command ended

The last thing that the server sends in a session is a status object.  A failed command has its exit
code among the causes of the status (`ExecStatus.exitCode?`).
-/

namespace PodRunner.Api

structure Cause where
  reason : Option String
  message : Option String
  deriving DecidableEq

structure ExecStatus where
  status : Option String
  reason : Option String
  message : Option String
  causes : List Cause
  deriving DecidableEq

namespace ExecStatus

def ofValue (v : Value) : ExecStatus :=
  ⟨(v.get "status").text?, (v.get "reason").text?, (v.get "message").text?,
    ((v.get "details").get "causes").items.map fun c =>
      ⟨(c.get "reason").text?, (c.get "message").text?⟩⟩

/-- The number that decimal digits denote; there must be one. -/
def digits? (s : List Char) : Option Nat :=
  if s.isEmpty ∨ ¬ s.all Char.isDigit then none
  else some (s.foldl (fun n c => 10 * n + (c.toNat - '0'.toNat)) 0)

/-- A whole number of 32 bits, with an optional sign. -/
def int32? (s : List Char) : Option Int :=
  let n? : Option Int :=
    match s with
    | '-' :: s => (digits? s).map fun n => -(n : Int)
    | '+' :: s => (digits? s).map Int.ofNat
    | s => (digits? s).map Int.ofNat
  n?.filter fun n => -Int.pow 2 31 ≤ n ∧ n < Int.pow 2 31

/-- The exit code: the message of the first cause that is named for it. -/
def exitCode? (s : ExecStatus) : Option Int := do
  let cause ← s.causes.find? (·.reason = some "ExitCode")
  let message ← cause.message
  int32? (Blank.trim message.toList)

/-- The most telling text of a failure. -/
def failureText (s : ExecStatus) : String :=
  (s.message <|> s.reason).getD "command failed"

/-- What the status means for the step. -/
def result (s : ExecStatus) : Except ClusterError Unit :=
  if s.status = some "Success" then .ok () else .error (.commandFailed s.exitCode? s.failureText)

end ExecStatus

end PodRunner.Api
