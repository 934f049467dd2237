import Mathlib.Logic.Function.Basic
import Mathlib.Logic.Relation
import PodRunner.Api.Session

/-!
# Streaming a session

What goes on while a session with a container lasts.  Four things happen at once: the caller writes
the script and waits for the status (`Own`), two relays carry output to the trace (`Own.relay`), the
connection moves bytes and messages between them and the server (`Wire`), and the server sends what
it has to send, frames at any time, and what ends the session when it has enough of the input
(`Serve`).  Each is a relation between the states of a `Transfer`.  The connection is a library: all
that is known of it is that its steps are among those of `Wire`, and that it does not rest as long
as there is something to do for it and for nobody else on its side (`Library`).
-/

namespace PodRunner.Api

/-- The streams of output. -/
inductive Output where
  | out
  | err
  deriving DecidableEq

def Output.channel : Output → Nat
  | out => 1
  | err => 2

/-! ## Messages -/

/-- What the server sends. -/
inductive Message where
  | frame (f : Frame)
  /-- The text of a status; none if it is no text. -/
  | status (text : Option String)
  /-- The end of the session with due ceremony. -/
  | close
  /-- The end of the session without. -/
  | lost

namespace Message

def isFrame : Message → Bool
  | frame _ => true
  | _ => false

/-- The message is the end of the session. -/
def closes : Message → Bool
  | close | lost => true
  | _ => false

/-- The bytes of the message, with that of its channel.  A status that is no text is a fault of any
length. -/
def length : Message → Nat
  | frame f => f.bytes.length + 1
  | status text => (text.map String.utf8ByteSize).getD 0 + 1
  | close | lost => 0

/-- What the message carries of an output. -/
def payload (o : Output) : Message → List UInt8
  | frame f => if f.channel = o.channel then f.bytes else []
  | _ => []

/-- What arrives on the channel of the status is a status. -/
def ofFrame (f : Frame) : Message :=
  if f.channel = 3 then status (Utf8.decode? f.bytes) else frame f

end Message

/-- What messages carry of an output. -/
def payload (o : Output) (ms : List Message) : List UInt8 := ms.flatMap (Message.payload o)

/-- What the server sends last: a status, if there is one, and the end. -/
def Session.ending (s : Session) : List Message :=
  s.status.toList.map (.status ∘ some) ++ [if s.closed then .close else .lost]

/-- What the server sends in a session. -/
def Session.messages (s : Session) : List Message :=
  s.frames.map .ofFrame ++ if s.hangs then [] else s.ending

/-- The bytes of the input that belongs to a script. -/
def Session.inputBytes (script : String) : List UInt8 :=
  Utf8.encodeChars (Session.input script.toList)

/-! ## The state of a session -/

/-- How far the caller is. -/
inductive Phase where
  /-- It writes the input, of which so much is left. -/
  | writing (left : List UInt8)
  /-- It waits for the status. -/
  | waiting
  /-- It has its answer about the status, and waits for the relays and the connection. -/
  | draining (status : Option ExecStatus)
  | returned (r : Except ClusterError Unit)
  /-- It has given up, because its input was refused. -/
  | broken

namespace Phase

/-- The input that is still to be written. -/
def left : Phase → List UInt8
  | writing left => left
  | _ => []

/-- The caller keeps the input open. -/
def holdsInput : Phase → Bool
  | writing _ | waiting => true
  | draining _ | returned _ | broken => false

/-- What the caller has come to. -/
def result? : Phase → Option (Except ClusterError Unit)
  | returned r => some r
  | broken => some (.error (.stream "writing script: broken pipe"))
  | _ => none

end Phase

structure Transfer where
  phase : Phase
  /-- What the caller wrote and the connection has not sent. -/
  stdin : List UInt8 := []
  /-- What the server has of the input. -/
  received : List UInt8 := []
  /-- What the server still has to send. -/
  unsent : List Message
  /-- What the server sent and the connection has not handled. -/
  incoming : List Message := []
  /-- The status that the connection has handed over. -/
  status : Option ExecStatus := none
  /-- How the connection ended, with its own account of what was wrong. -/
  ended : Option (Except String Unit) := none
  /-- Output that no relay has read. -/
  pipes : Output → List UInt8 := fun _ => []
  /-- The relay of the output goes on. -/
  relaying : Output → Bool := fun _ => true
  trace : List UInt8 := []

namespace Transfer

/-- The most that a relay reads at once. -/
def chunk : Nat := 8 * 1024

/-- The beginning of a session. -/
def start (s : Session) (script : String) : Transfer :=
  { phase := .writing (Session.inputBytes script), unsent := s.messages }

/-- What comes of the session, by its status and the end of its connection. -/
def outcome : Option ExecStatus → Except String Unit → Except ClusterError Unit
  | some status, _ => status.result
  | none, .error fault => .error (.stream fault)
  | none, .ok () => .error (.stream Session.unexplained)

/-! ## Steps -/

/-- The steps of the caller and of its relays, with so much room in a pipe. -/
inductive Own (room : Nat) : Transfer → Transfer → Prop where
  | write {t left n} (writing : t.phase = .writing left) (live : t.ended = none) (some : 0 < n)
      (there : n ≤ left.length) (fits : t.stdin.length + n ≤ room) :
      Own room t { t with phase := .writing (left.drop n), stdin := t.stdin ++ left.take n }
  /-- Nobody reads the input any more.  Giving up stops the relays. -/
  | refused {t left} (writing : t.phase = .writing left) (more : left ≠ [])
      (gone : t.ended ≠ none) :
      Own room t { t with phase := .broken, relaying := fun _ => false }
  | flush {t} (written : t.phase = .writing []) : Own room t { t with phase := .waiting }
  /-- The input is closed as soon as there is a status, or there can be none. -/
  | resolve {t} (waiting : t.phase = .waiting) (told : t.status ≠ none ∨ t.ended ≠ none) :
      Own room t { t with phase := .draining t.status }
  | relay {t o n} (active : t.relaying o = true) (some : 0 < n) (most : n ≤ chunk)
      (there : n ≤ (t.pipes o).length) :
      Own room t { t with
        pipes := Function.update t.pipes o ((t.pipes o).drop n)
        trace := t.trace ++ (t.pipes o).take n }
  | stop {t o} (active : t.relaying o = true) (drained : t.pipes o = []) (gone : t.ended ≠ none) :
      Own room t { t with relaying := Function.update t.relaying o false }
  | finish {t status e} (draining : t.phase = .draining status)
      (stopped : ∀ o, t.relaying o = false) (gone : t.ended = some e) :
      Own room t { t with phase := .returned (outcome status e) }

/-- The connection takes up the first message. -/
structure Takes (limit : Nat) (t : Transfer) (m : Message) (rest : List Message) : Prop where
  live : t.ended = none
  next : t.incoming = m :: rest
  short : m.length ≤ limit

/-- The steps that a connection may make which takes messages up to some length; `fault` is what it
says of anything wrong.  Messages without content do not count. -/
inductive Wire (room limit : Nat) (fault : String) : Transfer → Transfer → Prop where
  | send {t n} (live : t.ended = none) (some : 0 < n) (there : n ≤ t.stdin.length) :
      Wire room limit fault t { t with
        stdin := t.stdin.drop n, received := t.received ++ t.stdin.take n }
  /-- A frame goes to its pipe piece by piece. -/
  | deliver {t f rest o n} (taken : Takes limit t (.frame f) rest)
      (carried : f.channel = o.channel) (some : 0 < n) (there : n ≤ f.bytes.length)
      (fits : (t.pipes o).length + n ≤ room) :
      Wire room limit fault t { t with
        incoming := .frame { f with bytes := f.bytes.drop n } :: rest
        pipes := Function.update t.pipes o (t.pipes o ++ f.bytes.take n) }
  | pass {t f rest} (taken : Takes limit t (.frame f) rest)
      (idle : f.bytes = [] ∨ ∀ o : Output, f.channel ≠ o.channel) :
      Wire room limit fault t { t with incoming := rest }
  | skip {t rest} (taken : Takes limit t (.status (some "")) rest) :
      Wire room limit fault t { t with incoming := rest }
  | status {t text v rest} (taken : Takes limit t (.status (some text)) rest)
      (content : text ≠ "") (decodes : Session.status? text = some v) :
      Wire room limit fault t { t with incoming := rest, status := some v }
  | undecodable {t text rest} (taken : Takes limit t (.status text) rest)
      (content : text ≠ some "") (fails : text.bind Session.status? = none) :
      Wire room limit fault t { t with incoming := rest, ended := some (.error fault) }
  | close {t rest} (taken : Takes limit t .close rest) :
      Wire room limit fault t { t with incoming := rest, ended := some (.ok ()) }
  | lost {t rest} (taken : Takes limit t .lost rest) :
      Wire room limit fault t { t with incoming := rest, ended := some (.error fault) }
  /-- A message that is too long is not taken, and neither is anything after it. -/
  | tooLong {t m rest} (live : t.ended = none) (next : t.incoming = m :: rest)
      (long : limit < m.length) :
      Wire room limit fault t { t with ended := some (.error fault) }
  /-- After a status there is nothing to wait for. -/
  | leave {t} (live : t.ended = none) (told : t.status ≠ none) :
      Wire room limit fault t { t with ended := some (.ok ()) }
  /-- The end of the input is the end of the session. -/
  | hangUp {t} (live : t.ended = none) (closed : t.phase.holdsInput = false)
      (drained : t.stdin = []) : Wire room limit fault t { t with ended := some (.ok ()) }

/-- The server sends its messages in order, frames at any time, and the others when it has had
`enough` of the input: all of it, as a rule, but it may well be content with less. -/
inductive Serve (enough : List UInt8 → Prop) : Transfer → Transfer → Prop where
  | emit {t m rest} (next : t.unsent = m :: rest)
      (ready : m.isFrame = true ∨ enough t.received) :
      Serve enough t { t with unsent := rest, incoming := t.incoming ++ [m] }

end Transfer

/-- A connection.  It takes messages without content; its own accounts of what was wrong are never
that of a session without a status. -/
structure Library where
  room : Nat
  /-- The longest message that it takes. -/
  limit : Nat
  fault : String
  step : Transfer → Transfer → Prop
  roomy : 0 < room
  lenient : 0 < limit
  foreign : fault ≠ Session.unexplained
  sound : ∀ {t t'}, step t t' → Transfer.Wire room limit fault t t'
  /-- It does not rest while it could do something and the caller and the relays cannot. -/
  live : ∀ {t u}, Transfer.Wire room limit fault t u → (∀ t', ¬ Transfer.Own room t t') →
    ∃ t', step t t'

/-- The connection that may make every step. -/
def Library.free (room limit : Nat) (fault : String) (roomy : 0 < room) (lenient : 0 < limit)
    (foreign : fault ≠ Session.unexplained) : Library :=
  ⟨room, limit, fault, Transfer.Wire room limit fault, roomy, lenient, foreign, fun h => h,
    fun h _ => ⟨_, h⟩⟩

namespace Transfer

/-- One step of a session. -/
inductive Step (lib : Library) (enough : List UInt8 → Prop) (t t' : Transfer) : Prop where
  | own (h : Own lib.room t t')
  | wire (h : lib.step t t')
  | serve (h : Serve enough t t')

/-- Steps lead from one state to another. -/
def Run (lib : Library) (enough : List UInt8 → Prop) : Transfer → Transfer → Prop :=
  Relation.ReflTransGen (Step lib enough)

/-- A session with a script comes to a state. -/
def Reaches (lib : Library) (enough : List UInt8 → Prop) (s : Session) (script : String)
    (t : Transfer) : Prop :=
  Run lib enough (start s script) t

end Transfer

end PodRunner.Api
