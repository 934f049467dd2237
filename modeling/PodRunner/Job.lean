import PodRunner.Job.Options
import PodRunner.Job.Shell
import PodRunner.Job.Variable

/-!
# Jobs

A job of a project: what its pod is built from, and the name of the trace that its output goes to.
-/

namespace PodRunner

structure Job where
  id : Nat
  projectId : Nat
  /-- The runner's slot that the job occupies. -/
  concurrentId : Nat
  buildDir : String
  «variables» : Variables := []
  options : JobOptions := {}
  shell : Shell := .bash
  trace : String := "main"

/-- The job as a log shows it, without its variables. -/
def Job.summary (j : Job) : String :=
  "Job \x7b id: " ++ toString j.id ++ ", project_id: " ++ toString j.projectId ++
    ", concurrent_id: " ++ toString j.concurrentId ++ ", build_dir: " ++ Quoted.text j.buildDir ++
    ", options: " ++ j.options.summary ++ ", shell: " ++ Quoted.text j.shell.name ++ ", .. \x7d"

end PodRunner
