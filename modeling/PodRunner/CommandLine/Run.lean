import PodRunner.CommandLine.Arguments
import PodRunner.CommandLine.JobFile
import PodRunner.Connection.Connect
import PodRunner.Registry

/-!
# Running a job file

The program prepares the job of a job file with a runner of its configuration, runs the steps until
one fails, and cleans up.  The last line that it writes is its verdict, which decides its exit code.
-/

namespace PodRunner

/-- Why no job was started. -/
inductive Refusal where
  | error (e : Error)
  | unknownRunner (name : String)
  | noRunners
  | unreadableJob (path : String) (fault : FileFault)
  | undecodableJob
  | noSteps (job : Nat)

def Refusal.message : Refusal → String
  | error e => e.message
  | unknownRunner name => "Runner '" ++ name ++ "' not found in configuration"
  | noRunners => "Configuration defines no runners"
  | unreadableJob path fault => "Failed to read job file " ++ path ++ ": " ++ fault.message
  | undecodableJob => "Failed to parse job YAML: "
  | noSteps job => "Job " ++ toString job ++ " has no steps"

/-- How a job ended. -/
inductive Verdict where
  /-- The job could not be prepared. -/
  | unprepared (e : Error)
  | succeeded
  | failed (e : Error)

namespace Verdict

def exitCode : Verdict → Nat
  | unprepared _ => 1
  | succeeded => 0
  | failed e => if e.isAbort then 2 else 1

/-- The last line of a job's output. -/
def line : Verdict → List UInt8
  | unprepared e => Trace.error ("Job failed during preparation: " ++ e.message)
  | succeeded => Trace.line "Job succeeded"
  | failed e =>
    if e.isAbort then Trace.error "Job aborted" else Trace.error ("Job failed: " ++ e.message)

end Verdict

namespace Config

/-- Reads a configuration from a text. -/
def ofYaml (s : String) : Except Error Config :=
  match Yaml.decode Config.read s with
  | .error e => .error (.config (.undecodable e))
  | .ok c => c.checked

/-- Reads a configuration from a file. -/
def ofFile (files : Files) (path : String) : Except Error Config :=
  match files.text path with
  | .error fault => .error (.config (.unreadable path fault))
  | .ok s => ofYaml s

end Config

/-- A job that is ready to be prepared. -/
structure Plan where
  runner : Runner
  job : Job
  steps : List Step
  executor : Executor

namespace Plan

/-- The runner of that name, or the first. -/
def runner? (c : Config) : Option String → Except Refusal Runner
  | some name =>
    match c.runner? name with
    | some r => .ok r
    | none => .error (.unknownRunner name)
  | none =>
    match c.runners with
    | r :: _ => .ok r
    | [] => .error .noRunners

def jobFile (files : Files) (path : String) : Except Refusal JobFile :=
  match files.text path with
  | .error fault => .error (.unreadableJob path fault)
  | .ok s => (Yaml.decode JobFile.read s).mapError fun _ => .undecodableJob

/-- Reads everything that a run needs. -/
def load (files : Files) (registry : Registry) (a : Arguments) : Except Refusal Plan := do
  let config ← (Config.ofFile files a.config).mapError .error
  let runner ← runner? config a.runner
  let file ← jobFile files a.job
  let job ← file.job.mapError .error
  if file.steps.isEmpty then throw (.noSteps job.id)
  let executor ← (registry.create runner.executor).mapError .error
  return ⟨runner, job, file.steps.map (·.step), executor⟩

/-- Runs steps in order, up to the first that fails. -/
def runSteps (c : Cluster) (interrupt : Option Nat) :
    List Step → Executor → World → Ended (Except Error Unit) × Executor × World
  | [], x, w => (.value (.ok ()), x, w)
  | s :: steps, x, w =>
    match x.run c s interrupt w with
    | (.value (.ok ()), x, w) => runSteps c interrupt steps x w
    | r => r

/-- Runs steps and cleans up, whatever came of them. -/
def finish (c : Cluster) (interrupt : Option Nat) (steps : List Step) (x : Executor) (w : World) :
    Ended Verdict × World :=
  match runSteps c interrupt steps x w with
  | (.value r, x, w) =>
    match x.cleanup c w with
    | (.value _, _, w) =>
      (.value (match r with
        | .ok () => .succeeded
        | .error e => .failed e), w)
    | (.crash text, _, w) => (.crash text, w)
    | (.never, _, w) => (.never, w)
    | (.cut, _, w) => (.cut, w)
  | (.crash text, _, w) => (.crash text, w)
  | (.never, _, w) => (.never, w)
  | (.cut, _, w) => (.cut, w)

/-- Runs the job; the user interrupts it at the moment `interrupt`, if at all. -/
def execute (connect : ClusterSettings → Except Error Unit) (c : Cluster) (interrupt : Option Nat)
    (p : Plan) (w : World) : Ended Verdict × World :=
  let r : Ended Verdict × World :=
    match p.executor.prepare connect p.runner p.job w with
    | (.error e, _, w) => (.value (.unprepared e), w)
    | (.ok (), x, w) => finish c interrupt p.steps x w
  match r with
  | (.value v, w) => (.value v, w.record (.output p.job.trace v.line))
  | r => r

end Plan

/-- Why no request gets through to an address. -/
def refusalAt (address : String) : ClusterError :=
  .transport <| match Uri.form address with
    | .whole => "ServiceError: client error (Connect)"
    | .path => "ServiceError: client error (UserAbsoluteUriRequired)"
    | .authority => "ServiceError: buffer's worker closed unexpectedly"

/-- A cluster at an address that no request gets through to. -/
def Cluster.unreachable (address : String) : Cluster :=
  { create := fun _ _ => ⟨0, .fails (refusalAt address)⟩
    state := fun _ _ => ⟨0, .fails (refusalAt address)⟩
    exec := fun _ _ _ => { reply := ⟨0, .fails (refusalAt address)⟩ }
    delete := fun _ _ => ⟨0, .fails (refusalAt address)⟩ }

/-- What a run of the program shows. -/
structure Report where
  /-- The exit code; none if the program does not end. -/
  exit : Option Nat
  output : List UInt8 := []
  /-- Why no job was started. -/
  refusal : Option Refusal := none

namespace Report

/-- The version of the program. -/
def version : String := "kube-executor 0.1.0\n"

/-- The program: arguments in, output and exit code out.  `connect` tells the address that settings
lead to, and `cluster` is what is found at an address. -/
def ofConnection (files : Files) (connect : ClusterSettings → Except ConnectionFault String)
    (cluster : String → Cluster) (interrupt : Option Nat) : Asked → Report
  | .help => { exit := some 0 }
  | .version => { exit := some 0, output := Utf8.encode version }
  | .nonsense => { exit := some 2 }
  | .run a =>
    match Plan.load files .standard a with
    | .error refusal => { exit := some 1, refusal := some refusal }
    | .ok plan =>
      let address := (connect plan.runner.cluster).toOption.getD ""
      let (ended, w) := plan.execute (connected connect) (cluster address) interrupt {}
      let output := w.output plan.job.trace
      match ended with
      | .value v => { exit := some v.exitCode, output }
      | _ => { exit := none, output }

/-- The program on a machine, connecting by files alone. -/
def ofArguments (m : Machine) : (String → Cluster) → Option Nat → Asked → Report :=
  ofConnection m.files (connect .bare m)

end Report

end PodRunner
