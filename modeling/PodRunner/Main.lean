import PodRunner.CommandLine.Run
import Std.Time.DateTime.Timestamp

/-!
# The program

Reads arguments, environment, files and the clock, and shows the report of the run.  The program
opens no network connection of its own: its cluster is one that no request gets through to.
-/

namespace PodRunner.Main

/-- Why a file could not be read. -/
def faultOf : IO.Error → FileFault
  | .inappropriateType _ code _ => if code = 20 then .notDirectory else .directory
  | .invalidArgument _ code _ => if code = 36 then .nameTooLong else .missing
  | _ => .missing

/-- Reads a file. -/
def readBytes (path : String) : IO (Except FileFault (List UInt8)) := do
  try
    return .ok (← IO.FS.readBinFile path).toList
  catch e => return .error (faultOf e)

/-- Reads the files of these paths; there are no others. -/
def readFiles (paths : List String) : IO Files := do
  let entries ← paths.mapM fun path => do return (path, ← readBytes path)
  return fun path => (entries.lookup path).getD (.error .missing)

/-- The access files that the runners of a configuration name. -/
def accessPaths (files : Files) (config : String) : List String :=
  match Config.ofFile files config with
  | .ok c => c.runners.filterMap (·.cluster.kubeconfig)
  | .error _ => []

/-- The files that an access file names. -/
def pathsIn (files : Files) (path : String) : List String :=
  match (files.text path).toOption.bind AccessFile.parse? with
  | some f => f.fileNames.map (pathBeside path)
  | none => []

/-- Reads the files that a run looks at. -/
def filesOf (a : Arguments) : IO Files := do
  let paths := [a.config, a.job]
  let paths := paths ++ accessPaths (← readFiles paths) a.config
  let files ← readFiles paths
  readFiles (paths ++ paths.flatMap (pathsIn files))

/-- The number of seconds since the beginning of 1970. -/
def now : IO Timestamp := do
  return ⟨(← Std.Time.Timestamp.now).toSecondsSinceUnixEpoch.val, false⟩

end PodRunner.Main

open PodRunner PodRunner.Main in
def main (args : List String) : IO UInt32 := do
  let asked := Arguments.parse (← IO.getEnv "KUBE_EXECUTOR_CONFIG") args
  let files ← match asked with
    | .run a => filesOf a
    | _ => readFiles []
  let report := Report.ofArguments ⟨files, ← now⟩ .unreachable none asked
  let out ← IO.getStdout
  out.write (ByteArray.mk report.output.toArray)
  out.flush
  if let some refusal := report.refusal then
    IO.eprintln ("❌ " ++ refusal.message)
  return (report.exit.getD 1).toUInt32
