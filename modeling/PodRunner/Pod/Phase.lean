/-!
# Pods as the cluster knows them

The name of a pod (`PodRef`), the phase of its life (`Phase`) and what polling looks at
(`PodState`).
-/

namespace PodRunner

/-- The phase of a pod's life. -/
inductive Phase where
  | pending
  | running
  | succeeded
  | failed
  | unknown
  deriving DecidableEq, Repr

namespace Phase

def text : Phase → String
  | pending => "Pending"
  | running => "Running"
  | succeeded => "Succeeded"
  | failed => "Failed"
  | unknown => "Unknown"

/-- The phase of that name; any other text is an unknown phase. -/
def ofText (s : String) : Phase :=
  if s = "Pending" then pending
  else if s = "Running" then running
  else if s = "Succeeded" then succeeded
  else if s = "Failed" then failed
  else unknown

theorem ofText_text (p : Phase) : ofText p.text = p := by cases p <;> decide

end Phase

/-- A pod of the cluster. -/
structure PodRef where
  name : String
  ns : String
  deriving DecidableEq, Repr

/-- How messages name the pod. -/
def PodRef.text (p : PodRef) : String := p.ns ++ "/" ++ p.name

/-- What polling looks at. -/
structure PodState where
  phase : Phase
  /-- Why a container of the pod will never start. -/
  waiting : Option String := none
  deriving DecidableEq, Repr

end PodRunner
