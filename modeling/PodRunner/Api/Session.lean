import PodRunner.Api.Exchange
import PodRunner.Cluster.World
import PodRunner.Text.Query

/-!
# Sessions with a container

A script runs in a session: its text goes to the shell's input, followed by the command that ends
the shell (`Session.input`); the server sends frames of output and at last a status.  Output is what
the two output channels carry, in the order of the frames (`Session.output`).  A message that is too
long ends the session (`Session.limit`).
-/

namespace PodRunner.Api

/-- A piece of what the server sends. -/
structure Frame where
  channel : Nat
  bytes : List UInt8
  deriving DecidableEq

/-- What the server does once it has the input. -/
structure Session where
  frames : List Frame := []
  /-- The text of the final status. -/
  status : Option String := none
  /-- The session is closed with due ceremony. -/
  closed : Bool := true
  /-- The server sends neither status nor close. -/
  hangs : Bool := false

namespace Session

/-- The script with the command that ends the shell, on a line of its own. -/
def input (script : List Char) : List Char :=
  if script.isEmpty || script.getLast? = some '\n' then script ++ "exit\n".toList
  else script ++ "\nexit\n".toList

/-- The channels of output. -/
def isOutput (channel : Nat) : Bool := channel = 1 || channel = 2

/-- The longest message that is taken, in bytes, with the byte of its channel. -/
def limit : Nat := 16 * 1024 * 1024

/-- A message with so many bytes of content is taken. -/
def takes (content : Nat) : Bool := content + 1 ≤ limit

/-- The frame is taken. -/
def takesFrame (f : Frame) : Bool := takes f.bytes.length

/-- The pieces of output in the order of the frames, up to the first that is too long. -/
def output (s : Session) : List (List UInt8) :=
  ((s.frames.takeWhile takesFrame).filter fun f => isOutput f.channel && !f.bytes.isEmpty).map
    (·.bytes)

/-- The status object in a text. -/
def status? (text : String) : Option ExecStatus :=
  (object? Object.status text).map .ofValue

/-- The text of the status that arrives; a message without content does not count. -/
def statusText? (s : Session) : Option String := s.status.filter (!·.isEmpty)

/-- What is reported of a session that was closed with due ceremony, but without a status. -/
def unexplained : String := "exec stream closed without a status"

/-- How the session ends. -/
def result (s : Session) : Except ClusterError Unit :=
  if !s.frames.all takesFrame then .error (.stream "")
  else
    match s.statusText? with
    | none => .error (.stream (if s.closed then unexplained else ""))
    | some text =>
      if !takes text.utf8ByteSize then .error (.stream "")
      else
        match status? text with
        | some status => status.result
        | none => .error (.stream "")

/-- How the session ends, if it does. -/
def reply (s : Session) : Reply Unit :=
  if s.hangs && s.frames.all takesFrame then ⟨0, .hangs⟩
  else
    match s.result with
    | .ok () => ⟨0, .returns ()⟩
    | .error e => ⟨0, .fails e⟩

end Session

/-! ## Opening a session -/

/-- What the server is told when a session is opened. -/
structure SessionRequest where
  path : String
  /-- The query of the address. -/
  parameters : List (String × String)

namespace SessionRequest

/-- The text that a parameter gives; of several the last one counts. -/
def text? (r : SessionRequest) (key : String) : Option String := r.parameters.reverse.lookup key

/-- The parameter asks for something. -/
def flag (r : SessionRequest) (key : String) : Bool := r.text? key = some "true"

def container? (r : SessionRequest) : Option String := r.text? "container"

def command (r : SessionRequest) : List String :=
  (r.parameters.filter (·.1 = "command")).map (·.2)

end SessionRequest

/-- The parameters of a session in which a command reads a script and writes its output. -/
def sessionParameters (container : String) (command : List String) : List (String × String) :=
  [("stdin", "true"), ("stdout", "true"), ("stderr", "true"), ("container", container)] ++
    command.map ("command", ·)

/-- The query of an address: what stands after the first question mark. -/
def queryOf (address : String) : String :=
  String.ofList (((address.toList.takeWhile (· ≠ '#')).dropWhile (· ≠ '?')).drop 1)

/-- Opens a session.  What the server is told is read off the address, of which a name with a mark
of its own may cut off the end. -/
def openSession (pod : PodRef) (container : String) (command : List String) :
    Except ClusterError SessionRequest := do
  let address :=
    podAddress pod ++ "/exec?" ++ Query.write (sessionParameters container command)
  return ⟨← path? address, Query.read (queryOf address)⟩

end PodRunner.Api
