import PodRunner.Error
import PodRunner.Polling

/-!
# Runner configuration

A configuration lists runners; each says how it reaches its cluster and what it gives to jobs
(`ClusterSettings`).  `Config.read` reads it from a document in which every field but the runner's
name may be left out; `Config.validate` refuses what no job could run with; `Config.runner?` finds a
runner by its name.
-/

namespace PodRunner

namespace ClusterSettings

def defaultNamespace : String := "default"

def defaultHelperImage : String :=
  "registry.gitlab.com/gitlab-org/gitlab-runner/gitlab-runner-helper:x86_64-latest"

/-- In seconds. -/
def defaultPollInterval : Nat := 3

/-- In seconds: three minutes. -/
def defaultPollTimeout : Nat := 180

end ClusterSettings

/-- What a runner needs to know of its cluster, and its jobs' share of it. -/
structure ClusterSettings where
  ns : String := ClusterSettings.defaultNamespace
  host : Option String := none
  kubeconfig : Option String := none
  context : Option String := none
  acceptInvalidCerts : Bool := false
  image : Option String := none
  helperImage : String := ClusterSettings.defaultHelperImage
  cpus : String := ""
  memory : String := ""
  serviceCpus : String := ""
  serviceMemory : String := ""
  allowPrivileged : Bool := false
  pollIntervalSeconds : Nat := ClusterSettings.defaultPollInterval
  pollTimeoutSeconds : Nat := ClusterSettings.defaultPollTimeout
  deriving DecidableEq, Repr

def Runner.defaultExecutor : String := "kubernetes"

structure Runner where
  name : String
  executor : String := Runner.defaultExecutor
  token : String := ""
  cluster : ClusterSettings := {}
  deriving DecidableEq, Repr

def Config.defaultConcurrent : Nat := 1

structure Config where
  concurrent : Nat := Config.defaultConcurrent
  runners : List Runner := []
  deriving DecidableEq, Repr

namespace ClusterSettings

def fieldNames : List String :=
  ["namespace", "host", "kubeconfig", "context", "acceptInvalidCerts", "image", "helperImage",
    "cpus", "memory", "serviceCpus", "serviceMemory", "allowPrivileged", "pollIntervalSeconds",
    "pollTimeoutSeconds"]

/-- Reads the settings field by field.  Each field has its own value for being left out. -/
def readFields {ν : Type} [Format ν] (src : Fields ν) : Reading ClusterSettings :=
  ClusterSettings.mk <$> src.optional "namespace" Format.text defaultNamespace <*>
    src.maybe "host" Format.text <*> src.maybe "kubeconfig" Format.text <*>
    src.maybe "context" Format.text <*> src.optional "acceptInvalidCerts" Format.flag false <*>
    src.maybe "image" Format.text <*>
    src.optional "helperImage" Format.text defaultHelperImage <*>
    src.optional "cpus" Format.text "" <*> src.optional "memory" Format.text "" <*>
    src.optional "serviceCpus" Format.text "" <*> src.optional "serviceMemory" Format.text "" <*>
    src.optional "allowPrivileged" Format.flag false <*>
    src.optional "pollIntervalSeconds" (Format.natural "u64") defaultPollInterval <*>
    src.optional "pollTimeoutSeconds" (Format.natural "u64") defaultPollTimeout

def read {ν : Type} [Format ν] : ν → Decoded ClusterSettings :=
  Format.record "KubernetesConfig" fieldNames readFields

/-- The values of all fields, in declared order. -/
def fieldValues (s : ClusterSettings) : List Value :=
  [.text s.ns, .ofText? s.host, .ofText? s.kubeconfig, .ofText? s.context,
    .bool s.acceptInvalidCerts, .ofText? s.image, .text s.helperImage, .text s.cpus,
    .text s.memory, .text s.serviceCpus, .text s.serviceMemory, .bool s.allowPrivileged,
    .ofNat s.pollIntervalSeconds, .ofNat s.pollTimeoutSeconds]

def toValue (s : ClusterSettings) : Value := .ofFields (fieldNames.zip s.fieldValues)

/-- The settings as the list of their fields. -/
def toPositional (s : ClusterSettings) : Value := .list s.fieldValues

def poll (s : ClusterSettings) : PollSettings :=
  ⟨.ofSeconds s.pollIntervalSeconds, .ofSeconds s.pollTimeoutSeconds⟩

/-- The first thing wrong with the settings. -/
def fault? (s : ClusterSettings) : Option ConfigFault :=
  if Blank.blank s.ns then some .blankNamespace
  else if s.pollIntervalSeconds = 0 then some .noInterval
  else if s.pollTimeoutSeconds < s.pollIntervalSeconds then
    some (.shortTimeout s.pollTimeoutSeconds s.pollIntervalSeconds)
  else if Blank.blank s.helperImage then some .blankHelperImage
  else none

def validate (s : ClusterSettings) : Except Error Unit :=
  match s.fault? with
  | some f => .error (.config f)
  | none => .ok ()

end ClusterSettings

namespace Runner

def fieldNames : List String := ["name", "executor", "token", "kubernetes"]

def readFields {ν : Type} [Format ν] (src : Fields ν) : Reading Runner :=
  Runner.mk <$> src.required "name" Format.text <*>
    src.optional "executor" Format.text defaultExecutor <*>
    src.optional "token" Format.text "" <*> src.optional "kubernetes" ClusterSettings.read {}

def read {ν : Type} [Format ν] : ν → Decoded Runner :=
  Format.record "RunnerConfig" fieldNames readFields

def toValue (r : Runner) : Value :=
  .ofFields [("name", .text r.name), ("executor", .text r.executor), ("token", .text r.token),
    ("kubernetes", r.cluster.toValue)]

/-- The runner as the list of its fields, all the way down. -/
def toPositional (r : Runner) : Value :=
  .list [.text r.name, .text r.executor, .text r.token, r.cluster.toPositional]

/-- The first eight characters of the token. -/
def shortToken (r : Runner) : String := String.ofList (r.token.toList.take 8)

end Runner

namespace Config

def fieldNames : List String := ["concurrent", "runners"]

def readFields {ν : Type} [Format ν] (src : Fields ν) : Reading Config :=
  Config.mk <$> src.optional "concurrent" (Format.natural "usize") defaultConcurrent <*>
    src.optional "runners" (Format.list Runner.read) []

def read {ν : Type} [Format ν] : ν → Decoded Config :=
  Format.record "Config" fieldNames readFields

def toValue (c : Config) : Value :=
  .ofFields [("concurrent", .ofNat c.concurrent), ("runners", .list (c.runners.map Runner.toValue))]

/-- The configuration as the list of its fields, all the way down. -/
def toPositional (c : Config) : Value :=
  .list [.ofNat c.concurrent, .list (c.runners.map Runner.toPositional)]

/-- The first thing wrong with a runner that follows runners of the names `seen`. -/
def runnerFault? (seen : List String) (r : Runner) : Option ConfigFault :=
  if Blank.blank r.name then some .blankRunnerName
  else if r.name ∈ seen then some (.duplicateRunner r.name)
  else r.cluster.fault?

/-- The first thing wrong with runners that follow runners of the names `seen`. -/
def runnersFault? (seen : List String) : List Runner → Option ConfigFault
  | [] => none
  | r :: rest =>
    match runnerFault? seen r with
    | some f => some f
    | none => runnersFault? (r.name :: seen) rest

/-- The first thing wrong with the configuration. -/
def fault? (c : Config) : Option ConfigFault :=
  if c.concurrent = 0 then some .noConcurrency else runnersFault? [] c.runners

def validate (c : Config) : Except Error Unit :=
  match c.fault? with
  | some f => .error (.config f)
  | none => .ok ()

/-- The first runner of that name. -/
def runner? (c : Config) (name : String) : Option Runner := c.runners.find? (·.name = name)

/-- The configuration, if it is valid. -/
def checked (c : Config) : Except Error Config := c.validate.map fun _ => c

end Config

end PodRunner
