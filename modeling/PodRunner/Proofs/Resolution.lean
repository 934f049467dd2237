import PodRunner.Pod.Spec

/-!
# Settling a job

Of a job's variables only one thing decides how the job is settled: whether they ask for privilege.
`Prepared.findings` is what there is to find out, and `Prepared.resolve_eq` says that a settled job
is the job with its findings.
-/

namespace PodRunner.Prepared

/-- The image and the limits of a job of which the shell, the options and the wish for privilege are
given. -/
def findings (runner : Runner) (shell : Shell) (options : JobOptions) (privileged : Bool) :
    Except Error (String × Limits × Limits) := do
  if shell.passFile then throw (.unsupportedShell shell.name)
  runner.cluster.validate
  let image ← match options.image <|> runner.cluster.image with
    | some image => pure image
    | none => throw (.config .noImage)
  if privileged && !runner.cluster.allowPrivileged then throw .privilegedNotAllowed
  let limits ← (readLimits runner.cluster).mapError LimitFault.toError
  return (image, limits)

/-- A job with its findings. -/
def ofFindings (runner : Runner) (job : Job) (f : String × Limits × Limits) : Prepared :=
  ⟨runner, job, f.1, job.variables.privileged, f.2.2, f.2.1⟩

variable {runner : Runner} {job : Job} {p : Prepared}

theorem resolve_eq (runner : Runner) (job : Job) :
    resolve runner job =
      (findings runner job.shell job.options job.variables.privileged).map
        (ofFindings runner job) := by
  unfold resolve findings
  by_cases hs : job.shell.passFile = true
  · simp only [hs, if_true]
    rfl
  · cases runner.cluster.validate with
    | error e =>
      simp only [hs]
      rfl
    | ok =>
      simp only [hs]
      cases (job.options.image <|> runner.cluster.image) with
      | none => rfl
      | some image =>
        by_cases hp : (job.variables.privileged && !runner.cluster.allowPrivileged) = true
        · simp only [hp, if_true]
          rfl
        · simp only [hp]
          cases (readLimits runner.cluster).mapError LimitFault.toError <;> rfl

/-- A settled job is of the runner and the job that were to be settled. -/
theorem resolve_ok (h : resolve runner job = .ok p) : p.runner = runner ∧ p.job = job := by
  rw [resolve_eq] at h
  cases hf : findings runner job.shell job.options job.variables.privileged with
  | error e =>
    rw [hf] at h
    exact absurd h (by simp [Except.map])
  | ok f =>
    rw [hf] at h
    obtain rfl : ofFindings runner job f = p := Except.ok.inj h
    exact ⟨rfl, rfl⟩

end PodRunner.Prepared
