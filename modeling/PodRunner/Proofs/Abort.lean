import PodRunner.Proofs.History
import PodRunner.Proofs.Outcome
import PodRunner.Proofs.Resolution
import PodRunner.Proofs.Timeline

/-!
# The race with an abort

Once a run has its pod, its step and its abort race with each other, and whichever comes first
decides.  A step that is aborted has done exactly what it does before that moment, and does nothing
from then on; a step that finishes first ends as if it could not be aborted.  The pod is held in
either case (`Executor.abort_race`).
-/

namespace PodRunner

/-! ## The race of a task -/

namespace Timeline

variable {α : Type} {tl : Timeline α} {start : Nat} {w : World}

/-- The moment at which the task finishes, if it does. -/
def finish? (tl : Timeline α) : Option Nat :=
  match tl.ended with
  | .never => none
  | _ => some tl.stop

theorem finish?_eq_none_iff : tl.finish? = none ↔ tl.ended = .never := by
  unfold finish?
  cases tl.ended <;> simp

theorem finish?_of_ne (finite : tl.ended ≠ .never) : tl.finish? = some tl.stop := by
  unfold finish?
  cases ended : tl.ended with
  | never => exact absurd ended finite
  | value | crash | cut => rfl

theorem finish?_eq_some {T : Nat} (h : tl.finish? = some T) : tl.ended ≠ .never ∧ tl.stop = T := by
  have finite : tl.ended ≠ .never := fun never => by
    rw [finish?_eq_none_iff.2 never] at h
    cases h
  exact ⟨finite, Option.some.inj ((finish?_of_ne finite).symm.trans h)⟩

/-- A task that has not finished when it is interrupted is cut. -/
theorem run_of_unfinished {d : Nat} (h : ∀ T, tl.finish? = some T → d < T) :
    tl.run (some d) w = (.cut, w.after (tl.events (some d)) d) := by
  have unfinished : ¬ tl.endsBefore (some d) = true := by
    by_cases never : tl.ended = .never
    · simp [endsBefore, never]
    · have := h tl.stop (finish?_of_ne never)
      rw [tl.endsBefore_eq never, Task.before, decide_eq_true_eq]
      omega
  rw [run, if_neg unfinished]
  rfl

/-- A task that has finished by then is not interrupted. -/
theorem Sound.run_of_finished (sound : tl.Sound start) {T : Nat} (finish : tl.finish? = some T)
    {deadline : Option Nat} (late : ∀ d, deadline = some d → T < d) :
    tl.run deadline w = (tl.ended, w.after (tl.events none) T) := by
  obtain ⟨finite, rfl⟩ := finish?_eq_some finish
  have ends : Task.before tl.stop deadline = true := by
    cases deadline with
    | none => rfl
    | some d => simpa [Task.before] using late d rfl
  have complete : tl.events none = tl.entries.map Entry.event := sound.events_of_before rfl
  rw [run, tl.endsBefore_eq finite, if_pos ends, sound.events_of_before ends, complete]

end Timeline

namespace Task

variable {α : Type} {t : Task α} {tl : Timeline α} {w : World}

/-- The timeline is that of the task from a world on. -/
structure Follows (t : Task α) (tl : Timeline α) (w : World) : Prop where
  sound : tl.Sound w.now
  run_eq : ∀ deadline, before w.now deadline = true → t deadline w = tl.run deadline w

theorem Timed.exists_follows (ht : t.Timed) (w : World) : ∃ tl : Timeline α, t.Follows tl w := by
  obtain ⟨tl, sound, follows⟩ := ht w.now w.counts
  exact ⟨tl, sound, fun deadline => follows deadline w.past⟩

/-- Time does not go back while a task runs. -/
theorem Timed.le_now (ht : t.Timed) (w : World) : w.now ≤ (t none w).2.now := by
  obtain ⟨tl, follows⟩ := ht.exists_follows w
  rw [follows.run_eq none rfl]
  exact follows.sound.start_le

/-- A task that is interrupted before it finishes has done what it does before that. -/
theorem Follows.until_of_early (h : t.Follows tl w) {d : Nat}
    (early : d ≤ w.now ∨ ∀ T, tl.finish? = some T → d < T) :
    t.until (some d) w = (.cut, w.after (tl.events (some d)) (max d w.now)) := by
  by_cases began : before w.now (some d) = true
  · have hd : w.now < d := by simpa [before] using began
    have unfinished : ∀ T, tl.finish? = some T → d < T :=
      early.resolve_left (by omega)
    rw [Task.until, if_pos began, h.run_eq _ began, Timeline.run_of_unfinished unfinished,
      Nat.max_eq_left (by omega)]
  · have hd : d ≤ w.now := by simpa [before] using began
    rw [Task.until, if_neg began, h.sound.events_of_late began, Nat.max_eq_right hd,
      World.after_nil]

/-- A task that finishes before it is interrupted does everything. -/
theorem Follows.until_of_late (h : t.Follows tl w) {T : Nat} (finish : tl.finish? = some T)
    {deadline : Option Nat} (late : ∀ d, deadline = some d → T < d) :
    t.until deadline w = (tl.ended, w.after (tl.events none) T) := by
  have began : before w.now deadline = true := by
    cases deadline with
    | none => rfl
    | some d =>
      have start := h.sound.start_le
      obtain ⟨-, rfl⟩ := Timeline.finish?_eq_some finish
      have := late d rfl
      simp only [before, decide_eq_true_eq]
      omega
  rw [Task.until, if_pos began, h.run_eq _ began, h.sound.run_of_finished finish late]

end Task

namespace Executor

variable {c : Cluster} {x : Executor} {p : Prepared} {polling : PollSettings} {pod : PodRef}
variable {s : Step} {w w' : World}

/-! ## Aborts that have come already -/

theorem now_le_ensurePod : w.now ≤ (x.ensurePod c w).2.2.now := by
  unfold ensurePod
  split
  · rename_i p _ _ _
    split
    · exact Nat.le_refl _
    · have later := (c.timed_createPod p.podSpec).le_now w
      split <;> rename_i made <;> rwa [made] at later
  · exact Nat.le_refl _

/-- For a run it does not matter for how long its abort has been there. -/
theorem run_of_late {d d' : Nat} (late : d ≤ w.now) (late' : d' ≤ w.now) :
    x.run c s (some d) w = x.run c s (some d') w := by
  have later := now_le_ensurePod (c := c) (x := x) (w := w)
  unfold run
  rcases obtained : x.ensurePod c w with ⟨ended, y, w'⟩
  rw [obtained] at later
  match ended with
  | .value (.ok (p, polling, pod)) =>
    simp only [Task.until_of_late _ (Nat.le_trans late later),
      Task.until_of_late _ (Nat.le_trans late' later)]
  | .value (.error _) | .crash _ | .never | .cut => rfl

/-- The abort of a run that is interrupted at a given moment, counted from its beginning. -/
theorem run_interrupted (interrupt : Option Nat) :
    x.run c s ((interrupt.map (· - w.now)).map (w.now + ·)) w = x.run c s interrupt w := by
  cases interrupt with
  | none => rfl
  | some d =>
    show x.run c s (some (w.now + (d - w.now))) w = _
    rcases Nat.le_total w.now d with early | late
    · rw [Nat.add_sub_cancel' early]
    · rw [Nat.sub_eq_zero_of_le late]
      exact run_of_late (Nat.le_refl _) late

/-! ## The race of a step -/

theorem exists_joined {r : Ended (Except Error Unit)} (finite : r ≠ .never) :
    ∃ a, joined r = .value a := by
  cases r with
  | never => exact absurd rfl finite
  | value | crash | cut => exact ⟨_, rfl⟩

/-- When a run has its pod: at once if the pod is held, and else when it has been created. -/
inductive Obtains (c : Cluster) (x : Executor) (p : Prepared) (w : World) (pod : PodRef) :
    World → Prop
  | held (held : x.pod = some pod) : Obtains c x p w pod w
  | created {later} (free : x.pod = none)
      (made : c.createPod p.podSpec none w = (.value (.ok pod), later)) :
      Obtains c x p w pod later

theorem Obtains.now_le (h : Obtains c x p w pod w') : w.now ≤ w'.now := by
  cases h with
  | held => exact Nat.le_refl _
  | created _ made =>
    have later := (c.timed_createPod p.podSpec).le_now w
    rwa [made] at later

/-- A run that has its pod is its step, until it is aborted. -/
theorem run_of_obtains (prepared : x.prepared = some p) (waits : x.polling = some polling)
    (there : Obtains c x p w pod w') (abort : Option Nat) :
    x.run c s abort w =
      (joined ((stepTask c p polling pod s).until abort w').1, { x with pod := some pod },
        ((stepTask c p polling pod s).until abort w').2) := by
  cases there with
  | held held =>
    have same : { x with pod := some pod } = x := by rw [← held]
    rw [run_of_held prepared waits held, same]
  | created free made =>
    rw [run_of_created prepared waits free made,
      run_of_held (x := { x with pod := some pod }) prepared waits rfl]

/-- Let a run have its pod in the world `w'`, and let the abort come `A` milliseconds after the run
began.  The step has a timeline, the same for all aborts.  If the abort comes before the step
finishes, or has come before the run began, the run is aborted, at the moment of the abort or of the
pod, whichever is later, having done what the step does before the abort and no more: nothing if
the abort came before the pod.  If the step finishes first, the run ends with it and has its
outcome, which is no abort.  The pod is held afterwards, whatever happens. -/
theorem abort_race (prepared : x.prepared = some p) (waits : x.polling = some polling)
    (there : Obtains c x p w pod w') :
    ∃ tl : Timeline (Except Error Unit),
      stepTask c p polling pod s none w' = tl.run none w' ∧ tl.Sound w'.now ∧
      (∀ A, A = 0 ∨ (∀ T, tl.finish? = some T → w.now + A < T) →
        x.run c s (some (w.now + A)) w =
            (.value (.error .aborted), { x with pod := some pod },
              w'.after (tl.events (some (w.now + A))) (max (w.now + A) w'.now)) ∧
          (w.now + A ≤ w'.now → tl.events (some (w.now + A)) = [])) ∧
      (∀ T, tl.finish? = some T →
        (∃ r, joined tl.ended = .value r ∧ r ≠ .error .aborted ∧
          Outcome (awaitPod c p polling pod none w').1
            (execStep c p pod s none (awaitPod c p polling pod none w').2).1 r) ∧
        ∀ abort, (∀ A, abort = some A → T < w.now + A) →
          x.run c s (abort.map (w.now + ·)) w =
            (joined tl.ended, { x with pod := some pod }, w'.after (tl.events none) T)) ∧
      (tl.finish? = none → (x.run c s none w).1 = .never) ∧
      ∀ abort, (x.run c s abort w).2.1.pod = some pod := by
  -- The timeline is fixed before any abort is, from the world in which the pod is there.
  obtain ⟨tl, follows⟩ :=
    (c.timed_runScript polling pod (request p s) p.job.trace).exists_follows w'
  have run := run_of_obtains (s := s) prepared waits there
  have unaborted : stepTask c p polling pod s none w' = tl.run none w' := follows.run_eq none rfl
  have began := there.now_le
  refine ⟨tl, unaborted, follows.sound, fun A early => ⟨?_, fun soon => ?_⟩,
    fun T finish => ⟨?_, fun abort late => ?_⟩, fun never => ?_, fun abort => by rw [run]⟩
  · have unfinished : w.now + A ≤ w'.now ∨ ∀ T, tl.finish? = some T → w.now + A < T := by
      rcases early with rfl | early
      · exact .inl began
      · exact .inr early
    rw [run, stepTask, follows.until_of_early unfinished]
    rfl
  · exact follows.sound.events_of_late (by simpa [Task.before] using soon)
  · obtain ⟨r, hr⟩ := exists_joined (Timeline.finish?_eq_some finish).1
    have ended : (stepTask c p polling pod s none w').1 = tl.ended := congrArg Prod.fst unaborted
    rcases joined_stepTask (ended ▸ hr) with ⟨cut, -⟩ | outcome
    · exact absurd (ended ▸ cut) follows.sound.uncut
    · exact ⟨r, hr, outcome.ne_of_foreign (.inl rfl), outcome⟩
  · have late' : ∀ d, abort.map (w.now + ·) = some d → T < d := by
      intro d hd
      obtain ⟨A, hA, rfl⟩ := Option.map_eq_some_iff.1 hd
      exact late A hA
    rw [run, stepTask, follows.until_of_late finish late']
  · have ended : ((stepTask c p polling pod s).until none w').1 = .never :=
      (congrArg Prod.fst unaborted).trans (Timeline.finish?_eq_none_iff.1 never)
    rw [run, ended]
    rfl

open Sample in
/-- After a creation that failed, a run has its pod at 10, sees it pending at 20 and running at
3030, and its script crashes at 3040.  An abort at 5 comes before the pod and an abort at 1000
before the second look; an abort at 5000 comes too late. -/
theorem sample_abort_race :
    let p := Prepared.ofFindings runner job ("ruby:2.3", {}, {})
    let x : Executor := ⟨true, some p, some runner.cluster.poll, none⟩
    let pod : PodRef := ⟨toString 1, "ci"⟩
    let w : World := { counts := { create := 1 } }
    ∃ (w' : World) (tl : Timeline (Except Error Unit)),
      Obtains cluster x p w pod w' ∧ w'.now = 10 ∧ tl.finish? = some 3040 ∧
      x.run cluster step (some 5) w = (.value (.error .aborted), { x with pod := some pod }, w') ∧
      x.run cluster step (some 1000) w =
        (.value (.error .aborted), { x with pod := some pod },
          w'.after (tl.events (some 1000)) 1000) ∧
      x.run cluster step (some 5000) w =
        (.value (.error (crashReport "bug")), { x with pod := some pod },
          w'.after (tl.events none) 3040) := by
  intro p x pod w
  have there : Obtains cluster x p w pod (cluster.createPod p.podSpec none w).2 :=
    .created rfl (Prod.ext rfl rfl)
  obtain ⟨tl, unaborted, -, aborted, finished, -⟩ :=
    abort_race (s := step) (x := x) (p := p) rfl rfl there
  have ended : tl.ended = .crash "bug" := (congrArg Prod.fst unaborted).symm
  have stop : tl.stop = 3040 := (congrArg (·.2.now) unaborted).symm
  have finish : tl.finish? = some 3040 := by rw [Timeline.finish?_of_ne (by simp [ended]), stop]
  have early : ∀ A < 3040, ∀ T, tl.finish? = some T → w.now + A < T := by
    intro A hA T hT
    obtain rfl : 3040 = T := Option.some.inj (finish.symm.trans hT)
    show 0 + A < 3040
    omega
  refine ⟨_, tl, there, rfl, finish, ?_, (aborted 1000 (.inr (early 1000 (by omega)))).1, ?_⟩
  · obtain ⟨run, nothing⟩ := aborted 5 (.inr (early 5 (by omega)))
    rw [nothing (by decide)] at run
    exact run
  · have run := (finished 3040 finish).2 (some 5000) fun A hA => by cases hA; decide
    rw [ended] at run
    exact run

open Sample in
/-- A script writes at 20 and at 30; an abort at 25 comes between. -/
example :
    let c : Cluster :=
      { cluster with exec := fun _ _ _ => ⟨[⟨10, [104]⟩, ⟨10, [105]⟩], 10, .returns ()⟩ }
    let p := Prepared.ofFindings runner job ("ruby:2.3", {}, {})
    let x : Executor := ⟨true, some p, some runner.cluster.poll, some ⟨"1", "ci"⟩⟩
    let w : World := { counts := { state := 1 } }
    (x.run c step (some 25) w).2.2.output "main" = [104] ∧
      (x.run c step (some 35) w).2.2.output "main" = [104, 105] := by
  decide +kernel

end Executor

end PodRunner
