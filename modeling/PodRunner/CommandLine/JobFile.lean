import PodRunner.Executor
import PodRunner.Yaml.Source

/-!
# Job files

A job file describes a job and its steps.
-/

namespace PodRunner

/-- A step of a job file. -/
structure NamedStep where
  name : Option String := none
  step : Step

/-- A job file, its options not yet checked. -/
structure JobFile where
  id : Nat
  projectId : Nat
  concurrentId : Nat := 0
  buildDir : String
  «variables» : Variables := []
  options : Value := .null
  shell : Option Shell := none
  steps : List NamedStep

namespace JobFile

variable {ν : Type} [Format ν]

def readStep : ν → Decoded NamedStep :=
  Format.record "StepFile" ["name", "script", "predefined"] fun src =>
    (fun name script predefined => ⟨name, script, predefined⟩) <$>
      src.maybe "name" Format.text <*>
      src.required "script" Format.text <*> src.optional "predefined" Format.flag false

def fieldNames : List String :=
  ["id", "projectId", "concurrentId", "buildDir", "variables", "options", "shell", "steps"]

def read : ν → Decoded JobFile :=
  Format.record "JobFile" fieldNames fun src =>
    JobFile.mk <$> src.required "id" (Format.natural "u64") <*>
      src.required "projectId" (Format.natural "u64") <*>
      src.optional "concurrentId" (Format.natural "usize") 0 <*>
      src.required "buildDir" Format.text <*> src.optional "variables" Variables.read [] <*>
      src.optional "options" Format.untyped .null <*>
      src.maybe "shell" Shell.read <*>
      src.required "steps" (Format.list readStep)

/-- The job of the file. -/
def job (f : JobFile) : Except Error Job := do
  let options ← JobOptions.decode f.options
  return {
    id := f.id, projectId := f.projectId, concurrentId := f.concurrentId, buildDir := f.buildDir
    «variables» := f.variables, options, shell := f.shell.getD .bash }

end JobFile

end PodRunner
