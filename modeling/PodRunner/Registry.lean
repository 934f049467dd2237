import PodRunner.Executor

/-!
# Executors by name

A registry knows executors by name and creates them.  Its names are kept in ascending order.
-/

namespace PodRunner

/-- What jobs can ask of an executor. -/
structure Features where
  «variables» : Bool := false
  image : Bool := false
  services : Bool := false
  artifacts : Bool := false
  cache : Bool := false
  deriving DecidableEq, Repr

/-- Something that creates executors. -/
structure Provider where
  create : Executor
  features : Features
  /-- The job options that the executors look at. -/
  options : List String

/-- Executors that run jobs in pods, with a connection or without. -/
def Provider.pods (connected : Bool) : Provider where
  create := ⟨connected, none, none, none⟩
  features := ⟨true, true, true, true, true⟩
  options := ["image", "services", "artifacts", "cache"]

structure Registry where
  providers : List (String × Provider) := []

namespace Registry

def empty : Registry := {}

/-- Adds a provider, replacing one of the same name. -/
def register (r : Registry) (name : String) (p : Provider) : Registry :=
  ⟨insert r.providers⟩
where
  insert : List (String × Provider) → List (String × Provider)
    | [] => [(name, p)]
    | (n, q) :: rest =>
      if name < n then (name, p) :: (n, q) :: rest
      else if name = n then (name, p) :: rest
      else (n, q) :: insert rest

/-- The name of the executors that run jobs in pods. -/
def podsName : String := "kubernetes"

/-- The registry that a runner starts with. -/
def standard : Registry := empty.register podsName (.pods false)

def provider? (r : Registry) (name : String) : Option Provider := r.providers.lookup name

def create (r : Registry) (name : String) : Except Error Executor :=
  match r.provider? name with
  | some p => .ok p.create
  | none => .error (.config (.unregistered name))

/-- The names in ascending order. -/
def names (r : Registry) : List String := r.providers.map (·.1)

end Registry

end PodRunner
