import PodRunner.Decode
import PodRunner.Machine
import PodRunner.Pod.Phase
import PodRunner.Quantity

/-!
# What can go wrong

`ClusterError` is a failure of one call to the cluster, `Error` a failure of preparing or running a
job.  Both hold causes; the wording is in their `message`.
-/

namespace PodRunner

/-- A failed call to the cluster. -/
inductive ClusterError where
  /-- The server refused. -/
  | api (code : Nat) (message : String)
  /-- The request did not get through, or its answer could not be read. -/
  | transport (detail : String)
  /-- The session with a container broke. -/
  | stream (detail : String)
  /-- The command in the container failed. -/
  | commandFailed (exitCode : Option Int) (message : String)
  /-- The answer lacks what it must have. -/
  | malformed (detail : String)
  deriving DecidableEq, Repr

namespace ClusterError

def message : ClusterError → String
  | api code m => "Kubernetes API error (" ++ toString code ++ "): " ++ m
  | transport d => "transport error: " ++ d
  | stream d => "exec stream error: " ++ d
  | commandFailed code m =>
    "command terminated with exit code " ++
      (match code with
       | some n => toString n
       | none => "unknown") ++ ": " ++ m
  | malformed d => "malformed response: " ++ d

/-- The server does not know the pod. -/
def notFound : ClusterError → Bool
  | api code _ => code = 404
  | _ => false

end ClusterError

/-- What is wrong with the options of a job. -/
inductive OptionsFault where
  | undecodable (e : DecodeError)
  | blankImage
  | blankService (index : Nat)
  /-- A fault in words. -/
  | other (detail : String)

def OptionsFault.message : OptionsFault → String
  | undecodable e => e.message
  | blankImage => "image must not be empty"
  | blankService i => "services[" ++ toString i ++ "] must not be empty"
  | other d => d

/-- What is wrong with a configuration. -/
inductive ConfigFault where
  | blankNamespace
  | noInterval
  | shortTimeout (timeout interval : Nat)
  | blankHelperImage
  | noConcurrency
  | blankRunnerName
  | duplicateRunner (name : String)
  | noImage
  | unregistered (executor : String)
  | unreadable (path : String) (fault : FileFault)
  | undecodable (e : DecodeError)
  /-- A fault in words. -/
  | other (detail : String)

def ConfigFault.message : ConfigFault → String
  | blankNamespace => "kubernetes.namespace must not be empty"
  | noInterval => "kubernetes.pollIntervalSeconds must be greater than zero"
  | shortTimeout t i =>
    "kubernetes.pollTimeoutSeconds (" ++ toString t ++ ") must be at least pollIntervalSeconds (" ++
      toString i ++ ")"
  | blankHelperImage => "kubernetes.helperImage must not be empty"
  | noConcurrency => "concurrent must be at least 1"
  | blankRunnerName => "runner name must not be empty"
  | duplicateRunner name => "duplicate runner name '" ++ name ++ "'"
  | noImage => "job has no image and the runner defines no default image"
  | unregistered executor => "executor '" ++ executor ++ "' is not registered"
  | unreadable path fault => "failed to read config file " ++ path ++ ": " ++ fault.message
  | undecodable e => "failed to parse config YAML: " ++ e.message
  | other d => d

/-- Why there is no connection to the cluster. -/
inductive ConnectionFault where
  | unreadable (path : String)
  | badHost (host : String)
  /-- The access file does not give what a connection needs. -/
  | unusable
  /-- A fault in words. -/
  | other (detail : String)

def ConnectionFault.message : ConnectionFault → String
  | unreadable path => "reading kubeconfig " ++ path ++ ": "
  | badHost host => "invalid host " ++ host ++ ": "
  | unusable => ""
  | other d => d

/-- Why preparing or running a job failed. -/
inductive Error where
  | unsupportedShell (shell : String)
  | privilegedNotAllowed
  | invalidQuantity (raw : String) (fault : QuantityFault)
  | invalidOptions (fault : OptionsFault)
  | config (fault : ConfigFault)
  | connection (fault : ConnectionFault)
  | notPrepared
  | podCreation (cause : ClusterError)
  | podStatus (cause : ClusterError)
  | podStartTimeout (pod : String) (phase : Phase)
  | podNotRunning (state : String)
  | execution (cause : ClusterError)
  | aborted

namespace Error

def message : Error → String
  | unsupportedShell shell =>
    "Kubernetes doesn't support shells that require script file (shell: " ++ shell ++ ")"
  | privilegedNotAllowed => "Runner does not allow privileged containers"
  | invalidQuantity raw fault =>
    "error parsing resource limit " ++ Quoted.text raw ++ ": " ++ fault.message
  | invalidOptions fault => "invalid job options: " ++ fault.message
  | config fault => "configuration error: " ++ fault.message
  | connection fault => "Error connecting to Kubernetes: " ++ fault.message
  | notPrepared => "executor has not been prepared"
  | podCreation cause => "pod creation failed: " ++ cause.message
  | podStatus cause => "failed to query pod status: " ++ cause.message
  | podStartTimeout pod phase =>
    "timed out waiting for pod " ++ pod ++ " to start running, last status: " ++ phase.text
  | podNotRunning state => "pod failed to enter running state: " ++ state
  | execution cause => cause.message
  | aborted => "build aborted"

/-- The user gave up the job. -/
def isAbort : Error → Bool
  | aborted => true
  | _ => false

end Error

/-- The failure of a limit, as a failure of the job. -/
def LimitFault.toError (f : LimitFault) : Error := .invalidQuantity f.raw f.fault

end PodRunner
