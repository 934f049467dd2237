import PodRunner.Pod.Container
import PodRunner.Pod.Name

/-!
# Pod descriptions

What a pod is created from: its metadata and its containers (`PodSpec`), in whatever form those are
described.  `Prepared` is a job with everything about it settled, and `Prepared.podSpec` the pod of
such a job: a build container, a helper container and the services.
-/

namespace PodRunner

/-- The description of a pod with containers of type `κ`. -/
structure PodSpec (κ : Type) where
  generateName : String
  ns : String
  labels : List (String × String)
  containers : List κ

namespace PodSpec

/-- A pod of a build container, a helper and services, in this order. -/
def compose {κ : Type} (generateName ns : String) (labels : List (String × String))
    (build helper : κ) (services : List κ) : PodSpec κ :=
  ⟨generateName, ns, labels, build :: helper :: services⟩

def metadata {κ : Type} (p : PodSpec κ) : Value :=
  .ofFields ([("generateName", .text p.generateName), ("namespace", .text p.ns)] ++
    (if p.labels.isEmpty then []
     else [("labels", .ofFields (p.labels.map fun l => (l.1, .text l.2)))]))

/-- The description as the cluster's interface writes it.  A pod has one volume, empty at first, and
is never started again. -/
def toValue {κ : Type} (write : κ → Value) (p : PodSpec κ) : Value :=
  .ofFields [("apiVersion", .text "v1"), ("kind", .text "Pod"), ("metadata", p.metadata),
    ("spec", .ofFields [("containers", .list (p.containers.map write)),
      ("volumes", .list [.ofFields [("name", .text Container.volume), ("emptyDir", .object [])]]),
      ("restartPolicy", .text "Never")])]

end PodSpec

/-- The description of a job's pod. -/
abbrev JobPod := PodSpec Container

/-- The two containers in which steps run. -/
inductive Role where
  | build
  | helper
  deriving DecidableEq, Repr

def Role.text : Role → String
  | .build => "build"
  | .helper => "helper"

/-- The name of a service's container. -/
def serviceName (index : Nat) : String := "svc-" ++ toString index

/-- A job with everything about it settled. -/
structure Prepared where
  runner : Runner
  job : Job
  image : String
  privileged : Bool
  buildLimits : Limits
  serviceLimits : Limits

namespace Prepared

def workspace (p : Prepared) : Workspace :=
  ⟨p.job.buildDir, p.job.variables, p.privileged⟩

def build (p : Prepared) : Container :=
  p.workspace.container Role.build.text p.image p.buildLimits p.job.shell.command

def helper (p : Prepared) : Container :=
  p.workspace.container Role.helper.text p.runner.cluster.helperImage p.serviceLimits
    p.job.shell.command

def service (p : Prepared) (index : Nat) (image : String) : Container :=
  p.workspace.container (serviceName index) image p.serviceLimits []

def services (p : Prepared) : List Container :=
  p.job.options.services.zipIdx.map fun s => p.service s.2 s.1

def labels (p : Prepared) : List (String × String) :=
  [("app.kubernetes.io/managed-by", "kube-executor"),
    ("kube-executor/job-id", toString p.job.id),
    ("kube-executor/project-id", toString p.job.projectId),
    ("kube-executor/runner", String.ofList (Label.sanitize p.runner.name.toList))]

/-- The pod of the job. -/
def podSpec (p : Prepared) : JobPod :=
  .compose (Name.generate p.runner p.job) p.runner.cluster.ns p.labels p.build p.helper p.services

/-- The limits of a job's containers: the services' first. -/
def readLimits (s : ClusterSettings) : Except LimitFault (Limits × Limits) := do
  let serviceLimits ← Limits.parse s.serviceCpus s.serviceMemory
  let buildLimits ← Limits.parse s.cpus s.memory
  return (serviceLimits, buildLimits)

/-- Settles everything about a job, or says what stands against it: its shell, the runner's
settings, a missing image, its privilege, the limits, in this order. -/
def resolve (runner : Runner) (job : Job) : Except Error Prepared := do
  if job.shell.passFile then throw (.unsupportedShell job.shell.name)
  runner.cluster.validate
  let image ← match job.options.image <|> runner.cluster.image with
    | some image => pure image
    | none => throw (.config .noImage)
  let privileged := job.variables.privileged
  if privileged && !runner.cluster.allowPrivileged then throw .privilegedNotAllowed
  let (serviceLimits, buildLimits) ← (readLimits runner.cluster).mapError LimitFault.toError
  return ⟨runner, job, image, privileged, buildLimits, serviceLimits⟩

end Prepared

end PodRunner
