import PodRunner.Api.Deletion
import PodRunner.Api.ExecStatus
import PodRunner.Api.State
import PodRunner.Text.Uri

/-!
# Talking to the cluster's server

Each call is one request and the reading of its response (`Exchange`).  `Exchange.read` turns what
the server refuses into an error of the server, and what cannot be read into a broken transport.
-/

namespace PodRunner.Api

/-- What is asked of the server. -/
structure Request where
  method : String
  path : String
  body : Value

/-- A response: the code and the body as text. -/
structure Response where
  code : Nat
  body : String

/-- How the server words a refusal. -/
structure Refusal where
  status : String
  message : String
  reason : String
  code : Nat

namespace Refusal

def fieldNames : List String := ["status", "message", "reason", "code"]

def read {ν : Type} [Format ν] : ν → Decoded Refusal :=
  Format.record "ErrorResponse" fieldNames fun src =>
    Refusal.mk <$> src.required "status" Format.text <*> src.optional "message" Format.text "" <*>
      src.optional "reason" Format.text "" <*> src.required "code" (Format.word 16)

/-- The refusal in a body. -/
def ofBody? (body : String) : Option Refusal := do
  (read (← Json.Place.parse? body)).toOption

end Refusal

/-- The error of a response whose code is one of errors. -/
def refusalOf (r : Response) : ClusterError :=
  match Refusal.ofBody? r.body with
  | some refusal => .api refusal.code refusal.message
  | none => .api r.code (Quoted.text r.body)

/-- The codes of errors. -/
def Response.refused (r : Response) : Bool := 400 ≤ r.code && r.code < 600

/-- A request and the reading of what the server sends back. -/
structure Exchange (α : Type) where
  request : Request
  /-- What a body means; none if it cannot be read. -/
  answer? : String → Option (Except ClusterError α)

namespace Exchange

variable {α : Type}

/-- What a response means. -/
def read (x : Exchange α) (r : Response) : Except ClusterError α :=
  if r.refused then .error (refusalOf r)
  else (x.answer? r.body).getD (.error (.transport ""))

end Exchange

/-- The object of a shape in a body. -/
def object? (shape : Shape) (body : String) : Option Value := do
  (shape.read (← Json.Place.parse? body)).toOption

/-- The path of a request: what stands before a query or a fragment. -/
def pathOf (address : String) : String :=
  String.ofList (address.toList.takeWhile fun c => c ≠ '?' && c ≠ '#')

def podsAddress (ns : String) : String := "/api/v1/namespaces/" ++ ns ++ "/pods"

def podAddress (pod : PodRef) : String := podsAddress pod.ns ++ "/" ++ pod.name

/-- A path that a request can be sent to. -/
def path? (address : String) : Except ClusterError String :=
  if Uri.valid address then .ok (pathOf address) else .error (.transport "")

/-- The path of a pod, which must have a name. -/
def podPath? (pod : PodRef) (part : String) : Except ClusterError String :=
  if pod.name.isEmpty then .error (.transport "") else path? (podAddress pod ++ part)

/-- The pod that a pod object stands for; the server may leave its namespace out. -/
def createdPod (ns : String) (object : Value) : Except ClusterError PodRef :=
  let metadata := object.get "metadata"
  match (metadata.get "name").text? with
  | none => .error (.malformed "created pod has no name")
  | some name => .ok ⟨name, (metadata.get "namespace").text?.getD ns⟩

/-- Creates the pod of a pod object. -/
def create (pod : Value) : Except ClusterError (Exchange PodRef) := do
  let ns ← match ((pod.get "metadata").get "namespace").text? with
    | some ns => pure ns
    | none => throw (.malformed "pod spec has no namespace")
  let path ← path? (podsAddress ns)
  return ⟨⟨"POST", path, pod⟩, fun body => (object? Object.pod body).map (createdPod ns)⟩

/-- Looks at a pod. -/
def state (pod : PodRef) : Except ClusterError (Exchange PodState) := do
  let path ← podPath? pod "/status"
  return ⟨⟨"GET", path, .null⟩, fun body => (object? Object.pod body).map fun v => .ok (podState v)⟩

/-- Deletes a pod. -/
def delete (pod : PodRef) : Except ClusterError (Exchange Unit) := do
  let path ← podPath? pod ""
  return ⟨⟨"DELETE", path, .object []⟩, fun body => (deletion? body).map .ok⟩

end PodRunner.Api
