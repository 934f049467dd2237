import PodRunner.Proofs.Abort

/-!
# Aborts while a pod is created

The creation of a pod is waited for whatever the abort does.  An abort that comes meanwhile is seen
afterwards, if there is a pod then; but a creation that fails is what the run reports
(`Executor.run_of_creation_failed`).  So such an abort is reported exactly when the creation
succeeds (`Executor.aborted_iff_created`), and not always (`Executor.sample_abort_unreported`).
-/

namespace PodRunner

namespace Executor

variable {c : Cluster} {x : Executor} {s : Step} {w w' : World}
variable {p : Prepared} {polling : PollSettings}

section Free

variable (prepared : x.prepared = some p) (waits : x.polling = some polling) (free : x.pod = none)

include prepared waits free

/-- A creation that fails is reported, whenever the abort comes. -/
theorem run_of_creation_failed {e : ClusterError}
    (made : c.createPod p.podSpec none w = (.value (.error e), w')) (abort : Option Nat) :
    x.run c s abort w = (.value (.error (.podCreation e)), x, w') :=
  run_of_uncreated prepared waits free made fun _ h => by cases h

/-- An abort that has come by the time the pod is there is reported then; nothing is done with the
pod. -/
theorem run_of_created_late {pod : PodRef} {d : Nat}
    (made : c.createPod p.podSpec none w = (.value (.ok pod), w')) (late : d ≤ w'.now) :
    x.run c s (some d) w = (.value (.error .aborted), { x with pod := some pod }, w') := by
  rw [run_of_obtains prepared waits (.created free made), Task.until_of_late _ late]
  rfl

/-- Let an executor without a pod run a step whose abort comes before the creation of the pod
returns, or has come before the run began.  The run is reported as aborted exactly if the creation
succeeds.  The pod is held then, and nothing else was done; if the creation fails, its failure is
reported instead of the abort. -/
theorem aborted_iff_created {answer : Except ClusterError PodRef} {A : Nat}
    (answered : (c.create w.counts.create p.podSpec).outcome.answer? = some answer)
    (soon : A = 0 ∨ A < (c.create w.counts.create p.podSpec).delay) :
    let later := w.now + (c.create w.counts.create p.podSpec).delay
    ((x.run c s (some (w.now + A)) w).1 = .value (.error .aborted) ↔ ∃ pod, answer = .ok pod) ∧
      (∀ pod, answer = .ok pod → x.run c s (some (w.now + A)) w =
        (.value (.error .aborted), { x with pod := some pod },
          w.after [.create p.podSpec (some (.ok pod))] later)) ∧
      ∀ e, answer = .error e → x.run c s (some (w.now + A)) w =
        (.value (.error (.podCreation e)), x,
          w.after [.create p.podSpec (some (.error e))] later) := by
  intro later
  have made := Cluster.createPod_of_answer answered
  cases answer with
  | ok pod =>
    have late : w.now + A ≤ later := by omega
    have run := run_of_created_late (s := s) prepared waits free made late
    refine ⟨⟨fun _ => ⟨pod, rfl⟩, fun _ => by rw [run]⟩, ?_, fun e he => by cases he⟩
    rintro _ ⟨⟩
    exact run
  | error e =>
    have run := run_of_creation_failed (s := s) prepared waits free made (some (w.now + A))
    refine ⟨⟨fun aborted => ?_, ?_⟩, ?_, ?_⟩
    · rw [run] at aborted
      cases aborted
    · rintro ⟨_, ⟨⟩⟩
    · rintro _ ⟨⟩
    · rintro _ ⟨⟩
      exact run

end Free

open Sample in
/-- The first creation takes 10 and fails, the second one takes 10 and succeeds.  An abort at 5 is
reported of the second one. -/
theorem sample_aborted_creation :
    let p := Prepared.ofFindings runner job ("ruby:2.3", {}, {})
    let x : Executor := ⟨true, some p, some runner.cluster.poll, none⟩
    let pod : PodRef := ⟨toString 1, "ci"⟩
    let w : World := { counts := { create := 1 } }
    x.run cluster step (some 5) w =
        (.value (.error .aborted), { x with pod := some pod },
          w.after [.create p.podSpec (some (.ok pod))] 10) ∧
      x.run cluster step (some 5) {} =
        (.value (.error (.podCreation (.api 500 "quota"))), x,
          World.after {} [.create p.podSpec (some (.error (.api 500 "quota")))] 10) := by
  intro p x pod w
  have soon : 5 = 0 ∨ 5 < 10 := by decide
  obtain ⟨-, aborted, -⟩ :=
    aborted_iff_created (c := cluster) (x := x) (s := step) (w := w) (A := 5) rfl rfl rfl rfl soon
  obtain ⟨-, -, failed⟩ :=
    aborted_iff_created (c := cluster) (x := x) (s := step) (w := {}) (A := 5) rfl rfl rfl rfl soon
  exact ⟨aborted pod rfl, failed (.api 500 "quota") rfl⟩

open Sample in
/-- An executor that is prepared and holds no pod runs a step whose abort comes at 5, before the
creation of the pod returns at 10, and reports something else than the abort. -/
theorem sample_abort_unreported :
    let p := Prepared.ofFindings runner job ("ruby:2.3", {}, {})
    let x : Executor := ⟨true, some p, some runner.cluster.poll, none⟩
    let creation := cluster.create 0 p.podSpec
    Prepared.resolve runner job = .ok p ∧ 5 < creation.delay ∧
      creation.outcome.answer? = some (.error (.api 500 "quota")) ∧
      (x.run cluster step (some 5) {}).1 ≠ .value (.error .aborted) := by
  refine ⟨rfl, by decide, rfl, ?_⟩
  rintro ⟨⟩

end Executor

end PodRunner
