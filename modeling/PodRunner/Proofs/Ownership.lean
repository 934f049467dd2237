import PodRunner.Proofs.CallOrder

/-!
# Whose pod a script runs in

A pod is made for the job that is settled last when it is made (`Executor.Origin`), and held until a
cleanup, whatever is settled in between.  So a script runs in a pod of its own job exactly when the
job that was settled last now calls for the same pod as the one that was settled last then
(`Executor.exec_in_own_pod_iff`), which is so when no job was settled in between.  It is not so
always (`Executor.sample_pod_of_other_job`).
-/

namespace PodRunner.Executor

/-- The description of the pod that a job calls for. -/
def wanted? (last : Option (Runner × Job)) : Option JobPod :=
  last.bind fun a => (Prepared.resolve a.1 a.2).toOption.map Prepared.podSpec

/-- The pod that was created last was created from the description that the job settled last in
`pre` calls for. -/
def InOwnPod (pre : List Moment) (m : Moment) (pod : PodRef) : Prop :=
  ∃ spec, wanted? (lastAccepted pre) = some spec ∧
    (creations (log (pre ++ [m]))).getLast? = some (spec, pod)

/-- The pod was made in the moment `maker`, from the description that the job settled last before
that moment calls for, and after it no pod was made or deleted. -/
structure Origin (ms before : List Moment) (maker : Moment) (after : List Moment) (spec : JobPod)
    (pod : PodRef) : Prop where
  moments : ms = before ++ maker :: after
  settled : wanted? (lastAccepted before) = some spec
  unsettling : accepted? maker.op maker.result = none
  made : creations maker.events = [(spec, pod)]
  kept : Quiet (log after)

variable {past es : List Event} {last : Option (Runner × Job)} {x y : Executor} {op : Operation}
variable {r : Result} {pod : PodRef} {spec : JobPod}
variable {ms ns pre post before after : List Moment} {m maker : Moment}

/-! ## One turn -/

theorem Tracked.wanted_eq (h : Tracked past last x) {p : Prepared}
    (prepared : x.prepared = some p) : wanted? last = some p.podSpec := by
  have settled := h.settled
  rw [prepared] at settled
  cases last with
  | none => cases settled
  | some a =>
    have resolved : Prepared.resolve a.1 a.2 = .ok p := Option.some.inj settled
    rw [wanted?, Option.bind_some, resolved]
    rfl

/-- A pod that is held after an operation was held before it or was made in it. -/
theorem Flow.kept_or_made (flow : Flow x op es y) (held : y.pod = some pod) :
    (x.pod = some pod ∧ Quiet es) ∨
      ∃ p, x.prepared = some p ∧ creations es = [(p.podSpec, pod)] ∧
        ∀ r, accepted? op r = none := by
  cases flow with
  | kept same quiet => exact .inl ⟨same ▸ held, quiet⟩
  | @made _ _ p made es _ prepared _ now quiet =>
    obtain rfl : made = pod := Option.some.inj (now.symm.trans held)
    exact .inr ⟨p, prepared, congrArg (List.cons _) quiet.creations_eq_nil, fun _ => rfl⟩
  | released _ free _ =>
    rw [free] at held
    cases held

/-- A script is started in the pod that is held afterwards, and by a run. -/
theorem Turn.held_of_exec (turn : Turn x op r es y) {request : ExecRequest}
    {answer : Option (Except ClusterError Unit)} (asked : .exec pod request answer ∈ es) :
    y.pod = some pod ∧ accepted? op r = none := by
  have called : .exec pod request answer ∈ calls es := List.mem_filter.2 ⟨asked, rfl⟩
  cases turn with
  | refused | accepted | unprepared | idle | dropped => cases called
  | uncreated =>
    obtain h := List.mem_singleton.1 asked
    cases h
  | made _ _ _ stepped =>
    rcases List.mem_cons.1 called with h | h
    · cases h
    · exact ⟨(stepped.target h).symm, rfl⟩
  | reused _ _ held stepped => exact ⟨held.trans (stepped.target called).symm, rfl⟩
  | released _ _ deleted =>
    rw [deleted] at called
    cases List.mem_singleton.1 called

/-! ## Origins -/

theorem Origin.append (h : Origin ms before maker after spec pod) (quiet : Quiet m.events) :
    Origin (ms ++ [m]) before maker (after ++ [m]) spec pod := by
  refine ⟨?_, h.settled, h.unsettling, h.made, ?_⟩
  · rw [h.moments, List.append_assoc]
    rfl
  · rw [log_append, log_singleton]
    exact h.kept.append quiet

theorem Origin.latest (h : Origin ms before maker after spec pod) :
    (creations (log ms)).getLast? = some (spec, pod) := by
  have split : log ms = log before ++ (maker.events ++ log after) := by
    rw [h.moments, log_append]
    rfl
  rw [split, creations_append, creations_append, h.made, h.kept.creations_eq_nil]
  exact List.getLast?_concat

theorem lastAccepted_append_of_none (h : ∀ n ∈ ns, accepted? n.op n.result = none) :
    lastAccepted (ms ++ ns) = lastAccepted ms := by
  have nothing : lastAccepted ns = none := by
    rw [lastAccepted, List.filterMap_eq_nil_iff.2 h]
    rfl
  rw [lastAccepted_append, nothing, Option.none_or]

/-- As long as no other job is settled, the pod that is wanted is the one that was made. -/
theorem Origin.wanted_eq (h : Origin ms before maker after spec pod)
    (unsettled : ∀ n ∈ after, accepted? n.op n.result = none) :
    wanted? (lastAccepted ms) = some spec := by
  rw [h.moments, lastAccepted_append_of_none, h.settled]
  intro n hn
  rcases List.mem_cons.1 hn with rfl | hn
  · exact h.unsettling
  · exact unsettled n hn

theorem Moment.IsTurn.origin (turn : m.IsTurn)
    (tracked : Tracked (calls (log ms)) (lastAccepted ms) m.before)
    (h : ∀ pod, m.before.pod = some pod →
      ∃ before maker after spec, Origin ms before maker after spec pod)
    (held : m.after.pod = some pod) :
    ∃ before maker after spec, Origin (ms ++ [m]) before maker after spec pod := by
  have flow := turn.flow tracked.coherent
  rcases flow.kept_or_made held with ⟨held, quiet⟩ | ⟨p, prepared, made, unsettling⟩
  · obtain ⟨before, maker, after, spec, origin⟩ := h pod held
    exact ⟨before, maker, after ++ [m], spec, origin.append quiet⟩
  · have wanted := tracked.wanted_eq prepared
    exact ⟨ms, m, [], p.podSpec, rfl, wanted, unsettling m.result, made, quiet_nil⟩

/-! ## Every history -/

variable {connect : ClusterSettings → Except Error Unit} {c : Cluster} {connected : Bool}
variable {ops : List Operation} {w : World}

/-- After each moment the pod that is held has an origin. -/
theorem origin_of_history (h : history connect c (fresh connected) ops w = pre ++ m :: post)
    (held : m.after.pod = some pod) :
    ∃ before maker after spec, Origin (pre ++ [m]) before maker after spec pod := by
  obtain ⟨⟨tracked, origins⟩, turn⟩ := history_induction connect c
    (I := fun ms x => Tracked (calls (log ms)) (lastAccepted ms) x ∧
      ∀ pod, x.pod = some pod → ∃ before maker after spec, Origin ms before maker after spec pod)
    ⟨tracked_fresh connected, fun _ held => by cases held⟩
    (fun ms m known turn => ⟨turn.tracked known.1, fun _ => turn.origin known.1 known.2⟩) h
  exact turn.origin tracked origins held

/-- A script is started in a pod that was made for the job which was settled last when it was made.
That is a pod of the job which is settled last now exactly when this job calls for the same pod, and
so it is if no job was settled since the pod was made. -/
theorem exec_in_own_pod_iff {request : ExecRequest} {answer : Option (Except ClusterError Unit)}
    (h : history connect c (fresh connected) ops w = pre ++ m :: post)
    (asked : .exec pod request answer ∈ m.events) :
    ∃ before maker after spec, Origin (pre ++ [m]) before maker after spec pod ∧
      (InOwnPod pre m pod ↔ wanted? (lastAccepted pre) = wanted? (lastAccepted before)) ∧
      ((∀ n ∈ after, accepted? n.op n.result = none) → InOwnPod pre m pod) := by
  have turn := (tracked_of_history h).2
  obtain ⟨held, unsettling⟩ := turn.held_of_exec asked
  obtain ⟨before, maker, after, spec, origin⟩ := origin_of_history h held
  have same : lastAccepted (pre ++ [m]) = lastAccepted pre := by
    apply lastAccepted_append_of_none
    intro n hn
    rw [List.mem_singleton.1 hn]
    exact unsettling
  refine ⟨before, maker, after, spec, origin, ⟨?_, ?_⟩, fun unsettled => ?_⟩
  · rintro ⟨own, wanted, latest⟩
    rw [origin.latest] at latest
    obtain rfl : spec = own := congrArg Prod.fst (Option.some.inj latest)
    rw [wanted, origin.settled]
  · intro wanted
    exact ⟨spec, wanted.trans origin.settled, origin.latest⟩
  · exact ⟨spec, same ▸ origin.wanted_eq unsettled, origin.latest⟩

open Sample in
/-- Another job is settled while a pod is held: its script runs in the pod that was made for the
first one. -/
theorem sample_pod_of_other_job : ∃ pre m post,
    trial [.prepare runner job, .run step none, .run step none, .prepare runner otherJob,
        .run step none] = pre ++ m :: post ∧
      .exec ⟨"1", "ci"⟩ ⟨"build", ["sh"], "make"⟩ (some (.ok ())) ∈ m.events ∧
      ¬ InOwnPod pre m ⟨"1", "ci"⟩ := by
  refine ⟨[_, _, _, _], _, [], rfl, List.mem_cons_of_mem _ (List.mem_singleton_self _), ?_⟩
  rintro ⟨spec, wanted, latest⟩
  -- The images are enough to tell the two descriptions apart.
  have called : _ = some (spec.containers.map Container.image) :=
    congrArg (Option.map fun spec => spec.containers.map Container.image) wanted
  have made : _ = some (spec.containers.map Container.image) :=
    congrArg (Option.map fun (c : JobPod × PodRef) => c.1.containers.map Container.image) latest
  exact absurd (called.trans made.symm) (by decide +kernel)

open Sample in
/-- Without the other job the script runs in the pod in which the last one ran. -/
theorem sample_origin : ∃ pre m post,
    trial [.prepare runner job, .run step none, .run step none, .run step none] =
        pre ++ m :: post ∧
      .exec ⟨"1", "ci"⟩ ⟨"build", ["sh"], "make"⟩ (some (.ok ())) ∈ m.events ∧
      ∃ before maker after spec, Origin (pre ++ [m]) before maker after spec ⟨"1", "ci"⟩ ∧
        (InOwnPod pre m ⟨"1", "ci"⟩ ↔
          wanted? (lastAccepted pre) = wanted? (lastAccepted before)) ∧
        ((∀ n ∈ after, accepted? n.op n.result = none) → InOwnPod pre m ⟨"1", "ci"⟩) := by
  have h : trial [.prepare runner job, .run step none, .run step none, .run step none] =
      [_, _, _] ++ _ :: [] := rfl
  refine ⟨_, _, _, h, ?asked, exec_in_own_pod_iff h ?asked⟩
  exact List.mem_cons_of_mem _ (List.mem_singleton_self _)

end PodRunner.Executor
