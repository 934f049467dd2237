import Mathlib
import PodRunner.Proofs.CallOrder
import PodRunner.Proofs.Demands
import PodRunner.Proofs.Description
import PodRunner.Proofs.Trimming

/-!
# Privilege

All containers of a pod are privileged or none is.  They are if the job that was settled last asks
for it with its last variable `KUBERNETES_PRIVILEGED`, and then the runner for which it was settled
allows privileged containers (`Executor.privileged_of_create`).
-/

namespace PodRunner

/-! ## What variables ask for -/

namespace Variables

variable {vs : Variables} {key : String} {v : Variable}

/-- The last declaration of a key. -/
def IsLast (vs : Variables) (key : String) (v : Variable) : Prop :=
  ∃ earlier later, vs = earlier ++ v :: later ∧ v.key = key ∧ ∀ u ∈ later, u.key ≠ key

theorem get?_eq_some_iff {value : String} :
    vs.get? key = some value ↔ ∃ v, vs.IsLast key v ∧ v.value = value := by
  rw [get?, Option.map_eq_some_iff]
  refine exists_congr fun v => and_congr_left fun _ => ?_
  rw [List.find?_eq_some_iff_append]
  constructor
  · rintro ⟨found, later, earlier, split, none_later⟩
    refine ⟨earlier.reverse, later.reverse, ?_, by simpa using found, fun u hu => ?_⟩
    · rw [← List.reverse_reverse vs, split, List.reverse_append, List.reverse_cons,
        List.append_assoc]
      rfl
    · simpa using none_later u (List.mem_reverse.1 hu)
  · rintro ⟨earlier, later, rfl, found, none_later⟩
    refine ⟨by simpa using found, later.reverse, earlier.reverse, ?_, fun u hu => ?_⟩
    · rw [List.reverse_append, List.reverse_cons, List.append_assoc]
      rfl
    · simpa using none_later u (List.mem_reverse.1 hu)

theorem lower_eq_toLower (c : Char) : lower c = c.toLower := by
  have capital : c.isUpper = true ↔ 'A' ≤ c ∧ c ≤ 'Z' := by
    rw [Char.isUpper, decide_eq_true_iff]
    rfl
  unfold lower
  by_cases h : c.isUpper = true
  · rw [if_pos (capital.1 h), Char.toLower_eq_of_isUpper h]
  · rw [if_neg (fun hc => h (capital.2 hc)), Char.toLower_eq_of_not_isUpper h]

theorem toLower_eq_iff {c d : Char} (small : ¬ d.isUpper) :
    c.toLower = d ↔ c = d ∨ c = d.toUpper := by
  constructor
  · rintro rfl
    by_cases h : c.isUpper = true
    · rw [Char.toUpper_toLower_eq_toUpper,
        Char.toUpper_eq_of_not_isLower (Char.not_isLower_of_isUpper h)]
      exact .inr rfl
    · exact .inl (Char.toLower_eq_of_not_isUpper h).symm
  · rintro (rfl | rfl)
    · exact Char.toLower_eq_of_not_isUpper small
    · rw [Char.toLower_toUpper_eq_toLower, Char.toLower_eq_of_not_isUpper small]

/-- The text is the word, with any of its letters as capitals. -/
def Spelt (word s : List Char) : Prop := List.Forall₂ (fun c d => c = d ∨ c = d.toUpper) s word

theorem map_lower_eq_iff {word s : List Char} (small : ∀ d ∈ word, ¬ d.isUpper) :
    s.map lower = word ↔ Spelt word s := by
  induction word generalizing s with
  | nil => simp [Spelt]
  | cons d word ih =>
    have rest : ∀ d ∈ word, ¬ d.isUpper := fun d hd => small d (List.mem_cons_of_mem _ hd)
    cases s with
    | nil => simp [Spelt]
    | cons c s =>
      rw [List.map_cons, List.cons_eq_cons, ih rest, lower_eq_toLower,
        toLower_eq_iff (small d List.mem_cons_self), Spelt, Spelt, List.forall₂_cons]

/-- The words that mean yes. -/
def affirmatives : List String := ["1", "true", "yes"]

/-- The text is a word that means yes, in any case and with white space around it. -/
def Affirms (s : String) : Prop :=
  ∃ word ∈ affirmatives, ∃ t, Spelt word.toList t ∧ Blank.Padded Blank.isBlank t s.toList

theorem affirmative_iff (s : String) : affirmative s = true ↔ Affirms s := by
  have small : ∀ word ∈ affirmatives, ∀ d ∈ word.toList, ¬ d.isUpper := by
    simp [affirmatives]
  have words : affirmative s = true ↔
      ∃ word ∈ affirmatives, (Blank.trim s.toList).map lower = word.toList := by
    simp [affirmative, affirmatives, or_assoc]
  rw [words]
  refine exists_congr fun word => and_congr_right fun hw => ?_
  rw [map_lower_eq_iff (small word hw)]
  constructor
  · exact fun spelt => ⟨_, spelt, Blank.trimWhile_eq_iff.1 rfl⟩
  · rintro ⟨t, spelt, padded⟩
    rwa [Blank.trim, padded.trimWhile_eq]

/-- A job asks for privilege with the last declaration of one key. -/
theorem privileged_iff :
    vs.privileged = true ↔ ∃ v, vs.IsLast privilegedKey v ∧ Affirms v.value := by
  rw [privileged, Option.any_eq_true]
  constructor
  · rintro ⟨value, found, yes⟩
    obtain ⟨v, last, rfl⟩ := get?_eq_some_iff.1 found
    exact ⟨v, last, (affirmative_iff _).1 yes⟩
  · rintro ⟨v, last, yes⟩
    exact ⟨v.value, get?_eq_some_iff.2 ⟨v, last, rfl⟩, (affirmative_iff _).2 yes⟩

end Variables

/-! ## What the cluster is told -/

namespace PodSpec

/-- The pod is written with the containers of a job that has `n` services: all of them are
privileged, or none is. -/
structure Uniform (spec : JobPod) (n : Nat) (privileged : Bool) : Prop where
  names : spec.written.map (·.get "name") =
    .text "build" :: .text "helper" :: (List.range n).map (fun i => .text (serviceName i))
  flags : ∀ v ∈ spec.written, (v.get "securityContext").get "privileged" = .bool privileged

end PodSpec

namespace Prepared

/-- A job is settled as privileged if it asks for it, and only with a runner that allows it. -/
theorem resolve_privileged {runner : Runner} {job : Job} {p : Prepared}
    (h : resolve runner job = .ok p) :
    p.privileged = job.variables.privileged ∧
      (p.privileged = true → runner.cluster.allowPrivileged = true) := by
  have same := (settles_of_resolve h).privileged
  have demanded : .of (job.variables.privileged → runner.cluster.allowPrivileged)
      .privilegedNotAllowed ∈ demands runner job := by
    simp [demands]
  refine ⟨same, fun asks => ?_⟩
  exact holds_of_resolve h _ demanded (same ▸ asks)

theorem uniform_podSpec (p : Prepared) :
    p.podSpec.Uniform p.job.options.services.length p.privileged where
  names := by
    have named : (·.get "name") ∘ Container.toValue = Value.text ∘ Container.name :=
      funext Container.get_name
    rw [PodSpec.written_eq, List.map_map, named, ← List.map_map, map_name_containers,
      List.map_cons, List.map_cons, List.map_map]
    rfl
  flags v hv := by
    rw [PodSpec.written_eq] at hv
    obtain ⟨k, hk, rfl⟩ := List.mem_map.1 hv
    obtain ⟨name, image, limits, command, rfl⟩ := mem_containers hk
    rw [Value.get, (Container.shares_toValue rfl).privileged]
    rfl

end Prepared

/-! ## Every history -/

namespace Executor

variable {connect : ClusterSettings → Except Error Unit} {c : Cluster} {connected : Bool}
variable {ops : List Operation} {w : World} {pre post : List Moment} {m : Moment}

/-- Whatever is done, a pod is made with all its containers privileged or with none.  They are
privileged if the last variable `KUBERNETES_PRIVILEGED` of the job that was settled last means yes,
and then the runner for which that job was settled allows it. -/
theorem privileged_of_create (h : history connect c (fresh connected) ops w = pre ++ m :: post)
    {spec : JobPod} {answer : Option (Except ClusterError PodRef)}
    (asked : .create spec answer ∈ m.events) :
    ∃ runner job privileged, lastAccepted pre = some (runner, job) ∧
      spec.Uniform job.options.services.length privileged ∧
      (privileged = true ↔ ∃ v, job.variables.IsLast "KUBERNETES_PRIVILEGED" v ∧
        Variables.Affirms v.value) ∧
      (privileged = true → runner.cluster.allowPrivileged = true) := by
  obtain ⟨p, rfl, last, settled⟩ := settled_of_create h asked
  obtain ⟨same, allowed⟩ := Prepared.resolve_privileged settled
  refine ⟨p.runner, p.job, p.privileged, last, p.uniform_podSpec, ?_, allowed⟩
  rw [same]
  exact Variables.privileged_iff

end Executor

/-! ## A run to try out -/

namespace Sample

/-- A job with a service that asks for privilege, with its last word on it. -/
def privilegedJob : Job :=
  { job with
    «variables» :=
      [.ofPublic "KUBERNETES_PRIVILEGED" "no", .ofSecret "KUBERNETES_PRIVILEGED" " TruE\t"]
    options := { services := ["redis"] } }

/-- A runner that allows what the job asks for. -/
def privilegedRunner : Runner :=
  { runner with cluster := { runner.cluster with allowPrivileged := true } }

end Sample

namespace Executor

open Sample in
/-- The pod of a job that asks for privilege: a runner that forbids it comes between, in vain. -/
theorem sample_privileged : ∃ pre m post spec,
    trial [.prepare privilegedRunner privilegedJob, .prepare runner privilegedJob,
        .run step none] = pre ++ m :: post ∧
      .create spec (some (.error (.api 500 "quota"))) ∈ m.events ∧
      lastAccepted pre = some (privilegedRunner, privilegedJob) ∧ spec.Uniform 1 true := by
  have h : trial [.prepare privilegedRunner privilegedJob, .prepare runner privilegedJob,
      .run step none] = [_, _] ++ _ :: [] := rfl
  have asked : privilegedJob.variables.privileged = true := by decide +kernel
  obtain ⟨_, _, privileged, last, uniform, asks, -⟩ :=
    privileged_of_create h (List.mem_singleton_self _)
  cases last
  rw [asks.2 (Variables.privileged_iff.1 asked)] at uniform
  exact ⟨_, _, _, _, h, List.mem_singleton_self _, rfl, uniform⟩

end Executor

end PodRunner
