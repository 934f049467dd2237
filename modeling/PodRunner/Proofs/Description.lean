import Mathlib
import PodRunner.Pod.Spec

/-!
# Pods as they are described to the cluster

The pod of a settled job has a build container, a helper and one container for each service, in this
order and under different names.  Each has an image, limits and a command of its own
(`Container.Shows`); all share the environment, the privilege and one volume, which is mounted at
the parent of the build directory (`Container.Shares`, `Workspace.Parent`).  The statements are
about what the cluster is told, the fields of the written pod (`Prepared.describes_podSpec`).
-/

namespace PodRunner

/-! ## The parent of a directory -/

namespace Workspace

/-- The parent of a path is what stands before its last slash, or the root if nothing does. -/
inductive Parent : List Char → List Char → Prop
  | absent {dir : List Char} : '/' ∉ dir → Parent dir ['/']
  | first {last : List Char} : '/' ∉ last → Parent ('/' :: last) ['/']
  | inner {parent last : List Char} : parent ≠ [] → '/' ∉ last →
    Parent (parent ++ '/' :: last) parent

theorem parentReversed_append {last : List Char} (free : '/' ∉ last) (parent : List Char) :
    parentReversed (last ++ '/' :: parent) = parent := by
  have dropped : (last ++ '/' :: parent).dropWhile (· ≠ '/') = '/' :: parent := by
    rw [List.dropWhile_append_of_pos]
    · simp
    · intro c hc
      have other : c ≠ '/' := fun same => free (same ▸ hc)
      simpa using other
  rw [parentReversed, dropped]
  rfl

theorem parentReversed_of_notMem {dir : List Char} (free : '/' ∉ dir) : parentReversed dir = [] := by
  have dropped : dir.dropWhile (· ≠ '/') = [] := by
    rw [List.dropWhile_eq_nil_iff]
    intro c hc
    have other : c ≠ '/' := fun same => free (same ▸ hc)
    simpa using other
  rw [parentReversed, dropped]
  rfl

theorem parent_mountPath (dir : String) : Parent dir.toList (mountPath dir).toList := by
  by_cases slash : '/' ∈ dir.toList
  · -- The last slash is the first one of the reversed path.
    obtain ⟨last, parent, split, free⟩ :=
      List.eq_append_cons_of_mem (List.mem_reverse.2 slash)
    have whole : dir.toList = parent.reverse ++ '/' :: last.reverse := by
      rw [← List.reverse_reverse dir.toList, split]
      simp
    have bare : '/' ∉ last.reverse := by simpa using free
    rw [mountPath, split, parentReversed_append free, whole]
    cases root : parent.reverse with
    | nil => exact .first bare
    | cons c rest =>
      rw [String.toList_ofList]
      exact .inner (by simp) bare
  · rw [mountPath, parentReversed_of_notMem (by simpa using slash)]
    exact .absent slash

end Workspace

/-! ## What the cluster is told of a container -/

/-- The limit of a kind. -/
def Limits.quantity? (l : Limits) (kind : String) : Option Quantity :=
  if kind = "cpu" then l.cpu else if kind = "memory" then l.memory else none

namespace Container

/-- The written container has this name, image and command, and limits of exactly these kinds. -/
structure Shows (v : Value) (name image : String) (l : Limits) (command : List String) : Prop where
  name : v.field? "name" = some (.text name)
  image : v.field? "image" = some (.text image)
  command : v.field? "command" = if command = [] then none else some (.texts command)
  limits : ∀ kind, ((v.get "resources").get "limits").field? kind =
    (l.quantity? kind).map fun q => .text q.text
  unlimited : (v.get "resources").field? "limits" = none ↔ ∀ kind, l.quantity? kind = none

/-- The written container sees the exported variables in declared order, has this privilege, reads
its input, and has one mount, that of the volume at the path. -/
structure Shares (v : Value) (vs : Variables) (privileged : Bool) (volume path : String) :
    Prop where
  environment : v.field? "env" = some (.list (vs.exported.map fun x =>
    .ofFields [("name", .text x.key), ("value", .text x.value)]))
  privileged : (v.get "securityContext").field? "privileged" = some (.bool privileged)
  stdin : v.field? "stdin" = some (.bool true)
  mount : ∃ m, v.field? "volumeMounts" = some (.list [m]) ∧
    m.field? "name" = some (.text volume) ∧ m.field? "mountPath" = some (.text path)

theorem field?_resources_limits (l : Limits) : (resources l).field? "limits" =
    if l.isEmpty then none
    else some (.ofFields (l.entries.map fun e => (e.1, .text e.2.text))) := by
  rw [resources, Value.field?_ofFields]
  split <;> rfl

theorem lookup_entries (l : Limits) (kind : String) :
    (l.entries.map fun e => (e.1, Value.text e.2.text)).reverse.lookup kind =
      (l.quantity? kind).map fun q => .text q.text := by
  obtain ⟨cpu, memory⟩ := l
  by_cases isCpu : kind = "cpu"
  · cases cpu <;> cases memory <;>
      simp [Limits.entries, Limits.quantity?, Value.lookup_cons, isCpu]
  · by_cases isMemory : kind = "memory" <;> cases cpu <;> cases memory <;>
      simp [Limits.entries, Limits.quantity?, Value.lookup_cons, isCpu, isMemory]

theorem field?_limits (l : Limits) (kind : String) :
    ((resources l).get "limits").field? kind =
      (l.quantity? kind).map fun q => .text q.text := by
  rw [Value.get, field?_resources_limits, ← lookup_entries]
  split
  · next empty =>
    rw [List.isEmpty_iff.1 empty]
    rfl
  · exact Value.field?_ofFields _ _

theorem isEmpty_iff (l : Limits) : l.isEmpty = true ↔ ∀ kind, l.quantity? kind = none := by
  obtain ⟨cpu, memory⟩ := l
  constructor
  · intro empty kind
    cases cpu <;> cases memory <;> simp_all [Limits.isEmpty, Limits.entries, Limits.quantity?]
  · intro none
    have noCpu : cpu = .none := none "cpu"
    have noMemory : memory = .none := none "memory"
    simp [noCpu, noMemory, Limits.isEmpty, Limits.entries]

theorem shows_toValue (c : Container) : Shows c.toValue c.name c.image c.limits c.command := by
  have resources : c.toValue.get "resources" = resources c.limits := by
    rw [toValue, Value.get_ofFields]
    cases c.command.isEmpty <;> rfl
  refine ⟨?_, ?_, ?_, ?_, ?_⟩
  · rw [toValue, Value.field?_ofFields]
    cases c.command.isEmpty <;> rfl
  · rw [toValue, Value.field?_ofFields]
    cases c.command.isEmpty <;> rfl
  · rw [toValue, Value.field?_ofFields]
    cases c.command <;> rfl
  · intro kind
    rw [resources, field?_limits]
  · rw [resources, field?_resources_limits, ← isEmpty_iff]
    cases c.limits.isEmpty <;> simp

theorem get_name (c : Container) : c.toValue.get "name" = .text c.name := by
  rw [Value.get, (shows_toValue c).name, Option.getD_some]

theorem shares_toValue {c : Container} {vs : Variables}
    (same : c.environment = vs.exported.map fun v => (v.key, v.value)) :
    Shares c.toValue vs c.privileged volume c.mountPath := by
  have context : c.toValue.get "securityContext" =
      .ofFields [("privileged", .bool c.privileged)] := by
    rw [toValue, Value.get_ofFields]
    cases c.command.isEmpty <;> rfl
  refine ⟨?_, ?_, ?_, ?_⟩
  · have entries : c.environment.map environmentEntry = vs.exported.map fun v =>
        .ofFields [("name", .text v.key), ("value", .text v.value)] := by
      rw [same, List.map_map]
      rfl
    rw [← entries, toValue, Value.field?_ofFields]
    cases c.command.isEmpty <;> rfl
  · rw [context]
    rfl
  · rw [toValue, Value.field?_ofFields]
    cases c.command.isEmpty <;> rfl
  · refine ⟨.ofFields [("name", .text volume), ("mountPath", .text c.mountPath)], ?_, ?_, ?_⟩
    · rw [toValue, Value.field?_ofFields]
      cases c.command.isEmpty <;> rfl
    · rw [Value.field?_ofFields]
      rfl
    · rw [Value.field?_ofFields]
      rfl

end Container

/-! ## What the cluster is told of a pod -/

namespace PodSpec

theorem get_spec (spec : JobPod) : (spec.toValue Container.toValue).get "spec" = .ofFields
    [("containers", .list (spec.containers.map Container.toValue)),
      ("volumes", .list [.ofFields [("name", .text Container.volume), ("emptyDir", .object [])]]),
      ("restartPolicy", .text "Never")] := by
  rw [toValue, Value.get_ofFields]
  rfl

theorem get_metadata (spec : JobPod) :
    (spec.toValue Container.toValue).get "metadata" = spec.metadata := by
  rw [toValue, Value.get_ofFields]
  rfl

/-- The containers of the pod, as the cluster's interface writes them. -/
def written (spec : JobPod) : List Value :=
  (((spec.toValue Container.toValue).get "spec").get "containers").items

theorem written_eq (spec : JobPod) : spec.written = spec.containers.map Container.toValue := by
  rw [written, get_spec, Value.get_ofFields]
  rfl

theorem field?_volumes (spec : JobPod) : ∃ v,
    ((spec.toValue Container.toValue).get "spec").field? "volumes" = some (.list [v]) ∧
      v.field? "name" = some (.text Container.volume) ∧
      v.field? "emptyDir" = some (.object []) := by
  refine ⟨.ofFields [("name", .text Container.volume), ("emptyDir", .object [])], ?_, ?_, ?_⟩
  · rw [get_spec, Value.field?_ofFields]
    rfl
  · rw [Value.field?_ofFields]
    rfl
  · rw [Value.field?_ofFields]
    rfl

end PodSpec

theorem serviceName_injective : Function.Injective serviceName := by
  intro i k same
  have digits := congrArg String.toList same
  simp only [serviceName, String.toList_append, List.append_cancel_left_eq, String.toList_inj,
    Nat.toString_eq_repr, Nat.repr_inj] at digits
  exact digits

namespace Prepared

/-- The written pod is that of the job: these are its containers, and its one volume, empty at
first, is mounted in all of them at this path. -/
structure Describes (p : Prepared) (pod : Value) (containers : List Value) (volume path : String) :
    Prop where
  listed : (pod.get "spec").field? "containers" = some (.list containers)
  count : containers.length = p.job.options.services.length + 2
  build : ∃ v, containers[0]? = some v ∧
    Container.Shows v "build" p.image p.buildLimits p.job.shell.command
  helper : ∃ v, containers[1]? = some v ∧
    Container.Shows v "helper" p.runner.cluster.helperImage p.serviceLimits p.job.shell.command
  service : ∀ i image, p.job.options.services[i]? = some image → ∃ v, containers[i + 2]? = some v ∧
    Container.Shows v ("svc-" ++ toString i) image p.serviceLimits []
  names : (containers.map (·.get "name")).Nodup
  shared : ∀ v ∈ containers, Container.Shares v p.job.variables p.privileged volume path
  onlyVolume : ∃ v, (pod.get "spec").field? "volumes" = some (.list [v]) ∧
    v.field? "name" = some (.text volume) ∧ v.field? "emptyDir" = some (.object [])
  mounted : Workspace.Parent p.job.buildDir.toList path.toList
  restart : (pod.get "spec").field? "restartPolicy" = some (.text "Never")
  ns : (pod.get "metadata").field? "namespace" = some (.text p.runner.cluster.ns)
  generateName : (pod.get "metadata").field? "generateName" =
    some (.text (Name.generate p.runner p.job))
  labels : (pod.get "metadata").field? "labels" = some (.ofFields
    [("app.kubernetes.io/managed-by", .text "kube-executor"),
      ("kube-executor/job-id", .text (toString p.job.id)),
      ("kube-executor/project-id", .text (toString p.job.projectId)),
      ("kube-executor/runner", .text (String.ofList (Label.sanitize p.runner.name.toList)))])

theorem containers_podSpec (p : Prepared) :
    p.podSpec.containers = p.build :: p.helper :: p.services := rfl

theorem map_name_containers (p : Prepared) : p.podSpec.containers.map Container.name =
    "build" :: "helper" :: (List.range p.job.options.services.length).map serviceName := by
  have services : p.services.map Container.name =
      (List.range p.job.options.services.length).map serviceName := by
    rw [services, List.map_map, List.range_eq_range', ← List.zipIdx_map_snd, List.map_map]
    rfl
  rw [containers_podSpec, List.map_cons, List.map_cons, services]
  rfl

/-- Services are numbered, so that no two containers have one name. -/
theorem nodup_names (p : Prepared) : (p.podSpec.containers.map Container.name).Nodup := by
  have service (role : String) (short : role.toList.head? ≠ some 's') :
      role ∉ (List.range p.job.options.services.length).map serviceName := by
    rintro named
    obtain ⟨i, -, rfl⟩ := List.mem_map.1 named
    simp [serviceName] at short
  rw [map_name_containers, List.nodup_cons, List.nodup_cons, List.mem_cons, not_or]
  exact ⟨⟨by decide, service "build" (by simp)⟩, service "helper" (by simp),
    (List.nodup_range).map serviceName_injective⟩

/-- All containers of a job are made from one workspace. -/
theorem mem_containers {p : Prepared} {k : Container} (hk : k ∈ p.podSpec.containers) :
    ∃ name image limits command, k = p.workspace.container name image limits command := by
  rcases List.mem_cons.1 hk with rfl | hk
  · exact ⟨_, _, _, _, rfl⟩
  rcases List.mem_cons.1 hk with rfl | hk
  · exact ⟨_, _, _, _, rfl⟩
  obtain ⟨s, -, rfl⟩ := List.mem_map.1 hk
  exact ⟨_, _, _, _, rfl⟩

theorem nodup_written (p : Prepared) : (p.podSpec.written.map (·.get "name")).Nodup := by
  have texts : p.podSpec.written.map (·.get "name") =
      (p.podSpec.containers.map Container.name).map Value.text := by
    rw [PodSpec.written_eq, List.map_map, List.map_map]
    exact List.map_congr_left fun c _ => Container.get_name c
  rw [texts]
  exact p.nodup_names.map fun _ _ same => Value.text.inj same

theorem shares_of_mem_written {p : Prepared} {v : Value} (hv : v ∈ p.podSpec.written) :
    Container.Shares v p.job.variables p.privileged Container.volume
      (Workspace.mountPath p.job.buildDir) := by
  rw [PodSpec.written_eq] at hv
  obtain ⟨k, hk, rfl⟩ := List.mem_map.1 hv
  obtain ⟨name, image, limits, command, rfl⟩ := mem_containers hk
  exact Container.shares_toValue rfl

theorem getElem?_service {p : Prepared} {i : Nat} {image : String}
    (declared : p.job.options.services[i]? = some image) :
    p.podSpec.written[i + 2]? = some (p.service i image).toValue := by
  simp [PodSpec.written_eq, containers_podSpec, services, declared]

/-- Whatever the runner, the job, its limits and its privilege are, the pod of the settled job is
described to the cluster as it has to be. -/
theorem describes_podSpec (p : Prepared) :
    ∃ containers volume path,
      p.Describes (p.podSpec.toValue Container.toValue) containers volume path := by
  refine ⟨p.podSpec.written, Container.volume, Workspace.mountPath p.job.buildDir, ?_⟩
  exact {
    listed := by
      rw [PodSpec.written_eq, PodSpec.get_spec, Value.field?_ofFields]
      rfl
    count := by simp [PodSpec.written_eq, containers_podSpec, services]
    build := ⟨_, by rw [PodSpec.written_eq]; rfl, Container.shows_toValue p.build⟩
    helper := ⟨_, by rw [PodSpec.written_eq]; rfl, Container.shows_toValue p.helper⟩
    service := fun i image declared =>
      ⟨_, getElem?_service declared, Container.shows_toValue (p.service i image)⟩
    names := p.nodup_written
    shared := fun _ hv => shares_of_mem_written hv
    onlyVolume := PodSpec.field?_volumes p.podSpec
    mounted := Workspace.parent_mountPath p.job.buildDir
    restart := by
      rw [PodSpec.get_spec, Value.field?_ofFields]
      rfl
    ns := by
      rw [PodSpec.get_metadata, PodSpec.metadata, Value.field?_ofFields]
      rfl
    generateName := by
      rw [PodSpec.get_metadata, PodSpec.metadata, Value.field?_ofFields]
      rfl
    labels := by
      rw [PodSpec.get_metadata, PodSpec.metadata, Value.field?_ofFields]
      rfl }

end Prepared

end PodRunner
