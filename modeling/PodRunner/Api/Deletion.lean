import PodRunner.Api.Object.Pod
import PodRunner.Json.Reader

/-!
# Answers to a deletion

The server answers a deletion with the pod that goes, or with a report.  Both are read for nothing
but whether they are well formed (`deletion?`).
-/

namespace PodRunner.Api

/-- What a report says of the outcome. -/
inductive Outcome where
  | success
  | failure
  deriving DecidableEq

namespace Outcome

def ofText? (s : String) : Option Outcome :=
  if s = "Success" then some success else if s = "Failure" then some failure else none

/-- An outcome is a text, or the only key of an object that holds nothing. -/
def read {ν : Type} [Outlined ν] (v : ν) : Decoded Outcome := do
  let name ← match ← Outlined.outline v with
    | .text s => pure s
    | .object [(k, x)] => if (← Outlined.outline x).isNull then pure k else throw .malformed
    | _ => throw .malformed
  match ofText? name with
  | some o => return o
  | none => throw .malformed

end Outcome

/-- One of the reasons of a failure. -/
structure ReportCause where
  reason : String
  message : String
  field : String

/-- What a report is about. -/
structure ReportDetails where
  name : String
  group : String
  kind : String
  uid : String
  causes : List ReportCause
  retryAfterSeconds : Nat

structure Report where
  status : Option Outcome
  code : Nat
  message : String
  reason : String
  details : Option ReportDetails

section

variable {ν : Type} [Outlined ν]

def ReportCause.read : ν → Decoded ReportCause :=
  Format.record "StatusCause" ["reason", "message", "field"] fun src =>
    let text (key : String) : Reading String := src.optional key Format.text ""
    ReportCause.mk <$> text "reason" <*> text "message" <*> text "field"

def ReportDetails.read : ν → Decoded ReportDetails :=
  Format.record "StatusDetails" ["name", "group", "kind", "uid", "causes", "retryAfterSeconds"]
    fun src =>
      let text (key : String) : Reading String := src.optional key Format.text ""
      ReportDetails.mk <$> text "name" <*> text "group" <*> text "kind" <*> text "uid" <*>
        src.optional "causes" (Format.list ReportCause.read) [] <*>
        src.optional "retryAfterSeconds" (Format.word 32) 0

def Report.read : ν → Decoded Report :=
  Format.record "Status" ["status", "code", "message", "reason", "details"] fun src =>
    let text (key : String) : Reading String := src.optional key Format.text ""
    Report.mk <$> src.maybe "status" Outcome.read <*>
      src.optional "code" (Format.word 16) 0 <*> text "message" <*> text "reason" <*>
      src.maybe "details" ReportDetails.read

end

/-- Reads the answer to a deletion.  All of it must be readable, also what the kind of object that
it is does not know. -/
def deletion? (body : String) : Option Unit := do
  let v ← Json.parse? body
  let place ← Json.Place.parse? body
  let read (p : Json.Place) : Decoded Unit :=
    if (v.get "kind").text? = some "Status" then (fun _ => ()) <$> Report.read p
    else (fun _ => ()) <$> Object.pod.read p
  (read place).toOption

end PodRunner.Api
