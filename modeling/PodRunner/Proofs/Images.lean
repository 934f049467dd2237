import PodRunner.Proofs.Demands
import PodRunner.Proofs.Privilege

/-!
# Images of containers

A blank name of an image is refused where a job gives it to one of its containers and where a runner
gives it to the helper.  What a runner gives to jobs without an image of their own is taken as it
is.  So the helper and the services of a job always have an image with a name to it, and the build
container has one unless it gets a blank one from the runner (`Executor.images_of_create`), which
can happen (`Executor.sample_blank_image`).
-/

namespace PodRunner

/-- The text has a character that is not white space. -/
def Visible (s : String) : Prop := ∃ c ∈ s.toList, ¬ Blank.isBlank c

theorem visible_iff {s : String} : Visible s ↔ ¬ Blank.blank s := by
  simp [Visible, Blank.blank]

/-! ## Options -/

namespace JobOptions

variable {payload : Value} {o : JobOptions}

theorem fault?_of_decode (h : decode payload = .ok o) : o.fault? = none := by
  unfold decode at h
  split at h
  · cases h
    rfl
  · cases decoded : (read payload : Decoded JobOptions) with
    | error e =>
      rw [decoded] at h
      cases h
    | ok o' =>
      cases fault : o'.fault? with
      | some f =>
        simp only [decoded, fault] at h
        cases h
      | none =>
        simp only [decoded, fault] at h
        cases h
        exact fault

/-- The image, if there is one, has a name to it. -/
def ImageVisible (o : JobOptions) : Prop := ∀ image, o.image = some image → Visible image

theorem imageVisible_iff : o.ImageVisible ↔ ¬ o.image.any Blank.blank := by
  cases h : o.image <;> simp [ImageVisible, h, visible_iff]

theorem fault?_eq_none_iff : o.fault? = none ↔ o.ImageVisible ∧ ∀ s ∈ o.services, Visible s := by
  rw [imageVisible_iff]
  by_cases blank : o.image.any Blank.blank
  · simp [fault?, blank]
  · simp [fault?, blank, visible_iff]

/-- Options that were accepted have no blank name in them. -/
theorem visible_of_decode (h : decode payload = .ok o) :
    o.ImageVisible ∧ ∀ s ∈ o.services, Visible s :=
  fault?_eq_none_iff.1 (fault?_of_decode h)

end JobOptions

/-! ## Containers -/

/-- The written container has an image with a name to it. -/
def Container.HasImage (v : Value) : Prop :=
  ∃ image, v.field? "image" = some (.text image) ∧ Visible image

theorem Container.hasImage_toValue_iff (c : Container) : HasImage c.toValue ↔ Visible c.image := by
  rw [HasImage, (shows_toValue c).image]
  simp

namespace Prepared

variable {runner : Runner} {job : Job} {p : Prepared} {payload : Value}

theorem visible_helperImage (resolved : resolve runner job = .ok p) :
    Visible runner.cluster.helperImage := by
  have demanded : .of (¬ Blank.blank runner.cluster.helperImage) (.config .blankHelperImage) ∈
      demands runner job := by
    simp [demands, ClusterSettings.demands]
  exact visible_iff.2 (holds_of_resolve resolved _ demanded)

/-- The image of a job has a name to it if it is the job's own, or if the runner's has one. -/
theorem Settles.visible_image_iff (h : Settles runner job p)
    (decoded : JobOptions.decode payload = .ok job.options) :
    Visible p.image ↔ job.options.image.isSome ∨
      ∃ image, runner.cluster.image = some image ∧ Visible image := by
  rcases h.image with own | ⟨none_own, default⟩
  · simp [own, (JobOptions.visible_of_decode decoded).1 _ own]
  · simp [none_own, default]

theorem hasImage_of_mem_tail (resolved : resolve runner job = .ok p)
    (decoded : JobOptions.decode payload = .ok job.options) :
    ∀ v ∈ p.podSpec.written.tail, Container.HasImage v := by
  have settled := settles_of_resolve resolved
  have services := (JobOptions.visible_of_decode decoded).2
  rw [PodSpec.written_eq, containers_podSpec, List.map_cons, List.tail_cons]
  intro v hv
  obtain ⟨k, hk, rfl⟩ := List.mem_map.1 hv
  rw [Container.hasImage_toValue_iff]
  rcases List.mem_cons.1 hk with rfl | hk
  · have helper : p.helper.image = runner.cluster.helperImage := by rw [← settled.ofRunner]; rfl
    rw [helper]
    exact visible_helperImage resolved
  · obtain ⟨s, hs, rfl⟩ := List.mem_map.1 hk
    rw [settled.ofJob] at hs
    exact services _ (List.fst_mem_of_mem_zipIdx hs)

end Prepared

/-! ## Every history -/

namespace Executor

variable {connect : ClusterSettings → Except Error Unit} {c : Cluster} {connected : Bool}
variable {ops : List Operation} {w : World} {pre post : List Moment} {m : Moment}

/-- Whatever is done, let the options of the job that was settled last be decoded ones.  Then all
containers of a pod but the first have an image with a name to it.  The first one, in which the job
is built, has one exactly if the job names an image or the one of its runner has a name to it. -/
theorem images_of_create (h : history connect c (fresh connected) ops w = pre ++ m :: post)
    {spec : JobPod} {answer : Option (Except ClusterError PodRef)}
    (asked : .create spec answer ∈ m.events) :
    ∃ runner job, lastAccepted pre = some (runner, job) ∧
      ∀ payload, JobOptions.decode payload = .ok job.options →
        (∀ v ∈ spec.written.tail, Container.HasImage v) ∧
        ((∀ v ∈ spec.written, Container.HasImage v) ↔ job.options.image.isSome ∨
          ∃ image, runner.cluster.image = some image ∧ Visible image) := by
  obtain ⟨p, rfl, last, resolved⟩ := settled_of_create h asked
  refine ⟨p.runner, p.job, last, fun payload decoded => ?_⟩
  have others := Prepared.hasImage_of_mem_tail resolved decoded
  have build : p.podSpec.written = p.build.toValue :: p.podSpec.written.tail := by
    rw [PodSpec.written_eq]
    rfl
  refine ⟨others, ?_⟩
  -- The image of the job is that of the first container, and the others need not be looked at.
  rw [build, List.forall_mem_cons, and_iff_left others, Container.hasImage_toValue_iff]
  exact (Prepared.settles_of_resolve resolved).visible_image_iff decoded

end Executor

/-! ## Runs to try out -/

namespace Sample

/-- A runner that gives a blank image to jobs without one. -/
def imagelessRunner : Runner := { runner with cluster := { runner.cluster with image := some " " } }

end Sample

namespace Executor

open Sample in
/-- A job without an image of its own gets that of its runner. -/
theorem sample_images : ∃ pre m post spec,
    trial [.prepare runner job, .run step none] = pre ++ m :: post ∧
      .create spec (some (.error (.api 500 "quota"))) ∈ m.events ∧
      JobOptions.decode .null = .ok job.options ∧ lastAccepted pre = some (runner, job) ∧
      ∀ v ∈ spec.written, Container.HasImage v := by
  have h : trial [.prepare runner job, .run step none] = [_] ++ _ :: [] := rfl
  obtain ⟨_, _, last, images⟩ := images_of_create h (List.mem_singleton_self _)
  cases last
  have visible : Visible "ruby:2.3" := ⟨'r', by decide +kernel, by decide⟩
  have all := (images .null rfl).2.2 (.inr ⟨_, rfl, visible⟩)
  exact ⟨_, _, _, _, h, List.mem_singleton_self _, rfl, rfl, all⟩

open Sample in
/-- A blank image of the runner is given to a container. -/
theorem sample_blank_image : ∃ pre m post spec,
    trial [.prepare imagelessRunner job, .run step none] = pre ++ m :: post ∧
      .create spec (some (.error (.api 500 "quota"))) ∈ m.events ∧
      JobOptions.decode .null = .ok job.options ∧ lastAccepted pre = some (imagelessRunner, job) ∧
      ∃ v ∈ spec.written, ¬ Container.HasImage v := by
  have h : trial [.prepare imagelessRunner job, .run step none] = [_] ++ _ :: [] := rfl
  refine ⟨_, _, _, _, h, List.mem_singleton_self _, rfl, rfl, ?_⟩
  rw [PodSpec.written_eq]
  refine ⟨_, List.mem_cons_self, ?_⟩
  rw [Container.hasImage_toValue_iff]
  have blank : Blank.blank " " := by decide +kernel
  exact fun visible => visible_iff.1 visible blank

end Executor

end PodRunner
