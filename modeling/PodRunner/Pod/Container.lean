import PodRunner.Job.Variable
import PodRunner.Quantity

/-!
# Containers

A container of a job's pod.  All containers of one job share the environment, the working tree and
the privilege (`Workspace`), and differ in name, image, limits and command.
-/

namespace PodRunner

/-- What all containers of a job share. -/
structure Workspace where
  buildDir : String
  «variables» : Variables
  privileged : Bool

structure Container where
  name : String
  image : String
  /-- No command means the image's own. -/
  command : List String
  environment : List (String × String)
  limits : Limits
  mountPath : String
  privileged : Bool
  deriving DecidableEq

/-- The volume that holds the working tree. -/
def Container.volume : String := "repo"

namespace Workspace

/-- What follows the last slash of a reversed path, slash included, taken away. -/
def parentReversed (s : List Char) : List Char := (s.dropWhile (· ≠ '/')).drop 1

/-- The directory in which a build directory lies; all containers mount it. -/
def mountPath (buildDir : String) : String :=
  match (parentReversed buildDir.toList.reverse).reverse with
  | [] => "/"
  | parent => String.ofList parent

/-- A container of the job. -/
def container (w : Workspace) (name image : String) (limits : Limits) (command : List String) :
    Container where
  name := name
  image := image
  command := command
  environment := w.variables.exported.map fun v => (v.key, v.value)
  limits := limits
  mountPath := mountPath w.buildDir
  privileged := w.privileged

end Workspace

namespace Container

def environmentEntry (e : String × String) : Value :=
  .ofFields [("name", .text e.1), ("value", .text e.2)]

def resources (l : Limits) : Value :=
  .ofFields (if l.isEmpty then []
    else [("limits", .ofFields (l.entries.map fun e => (e.1, .text e.2.text)))])

/-- The container as the cluster's interface writes it. -/
def toValue (c : Container) : Value :=
  .ofFields ([("name", .text c.name), ("image", .text c.image)] ++
    (if c.command.isEmpty then [] else [("command", .texts c.command)]) ++
    [("env", .list (c.environment.map environmentEntry)),
      ("resources", resources c.limits),
      ("volumeMounts",
        .list [.ofFields [("name", .text volume), ("mountPath", .text c.mountPath)]]),
      ("securityContext", .ofFields [("privileged", .bool c.privileged)]),
      ("stdin", .bool true)])

end Container

end PodRunner
