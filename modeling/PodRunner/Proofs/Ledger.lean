import PodRunner.Proofs.History

/-!
# The ledger of pods

Along every history the pods that were created are, in order, those that were handed to deletion and
then the pod that is held (`Executor.Balanced`).  So no pod is lost and none is deleted twice,
whatever the cluster answers (`Executor.created_eq_deleted_append_held`).
-/

namespace PodRunner.Executor

/-! ## One turn -/

/-- What was created is what was handed to deletion, and then what is held. -/
def Balanced (es : List Event) (x : Executor) : Prop :=
  created es = deleted es ++ x.pod.toList

theorem Flow.balanced {x y : Executor} {op : Operation} {es past : List Event}
    (flow : Flow x op es y) (h : Balanced past x) : Balanced (past ++ es) y := by
  unfold Balanced at h ⊢
  rw [created_append, deleted_append]
  cases flow with
  | kept same quiet =>
    rw [quiet.created_eq_nil, quiet.deleted_eq_nil, same, h]
    simp only [List.append_nil]
  | @made _ _ p pod es _ _ free held quiet =>
    have added : created (.create p.podSpec (some (.ok pod)) :: es) = [pod] :=
      congrArg (List.cons pod) quiet.created_eq_nil
    have unchanged : deleted (.create p.podSpec (some (.ok pod)) :: es) = [] :=
      quiet.deleted_eq_nil
    rw [added, unchanged, h, free, held]
    simp only [Option.toList_none, Option.toList_some, List.append_nil]
  | @released pod _ es _ held free asked =>
    have unchanged : created es = [] := by
      rw [← created_calls, asked]
      rfl
    have gone : deleted es = [pod] := by
      rw [← deleted_calls, asked]
      rfl
    rw [unchanged, gone, h, held, free]
    simp only [Option.toList_none, Option.toList_some, List.append_nil]

def Operation.isCleanup : Operation → Bool
  | .cleanup => true
  | _ => false

/-- An operation hands a pod to deletion only if it is a cleanup, and then one at most. -/
theorem Flow.length_deleted_le {x y : Executor} {op : Operation} {es : List Event}
    (flow : Flow x op es y) : (deleted es).length ≤ op.isCleanup.toNat := by
  cases flow with
  | kept _ quiet => simp [quiet.deleted_eq_nil]
  | @made _ _ p pod es _ _ _ _ quiet =>
    have unchanged : deleted (.create p.podSpec (some (.ok pod)) :: es) = [] :=
      quiet.deleted_eq_nil
    simp [unchanged]
  | @released pod answer es _ _ _ asked =>
    have gone : deleted es = [pod] := by
      rw [← deleted_calls, asked]
      rfl
    rw [gone]
    exact Nat.le_refl 1

theorem Turn.free_of_cleanup {x y : Executor} {r : Result} {es : List Event}
    (turn : Turn x .cleanup r es y) : y.pod = none := by
  cases turn with
  | idle free => exact free
  | dropped | released => rfl

/-! ## Every history -/

variable {connect : ClusterSettings → Except Error Unit} {c : Cluster} {connected : Bool}
variable {ops : List Operation} {w : World} {pre post : List Moment} {m : Moment}

/-- Before each moment the executor is coherent and its ledger is balanced. -/
theorem balanced_of_history
    (h : history connect c (fresh connected) ops w = pre ++ m :: post) :
    (m.before.Coherent ∧ Balanced (log pre) m.before) ∧ m.IsTurn := by
  refine history_induction connect c (I := fun ms x => x.Coherent ∧ Balanced (log ms) x) ?_ ?_ h
  · exact ⟨coherent_fresh connected, rfl⟩
  · intro ms m ⟨coherent, balanced⟩ turn
    rw [log_append, log_singleton]
    exact ⟨turn.coherent coherent, (turn.flow coherent).balanced balanced⟩

/-- No more pods are handed to deletion than there are cleanups. -/
theorem length_deleted_le (h : history connect c (fresh connected) ops w = pre ++ m :: post) :
    (deleted (log (pre ++ [m]))).length ≤ (pre ++ [m]).countP (·.op.isCleanup) := by
  have next : ∀ {ms : List Moment} {m : Moment},
      m.before.Coherent ∧ (deleted (log ms)).length ≤ ms.countP (·.op.isCleanup) → m.IsTurn →
      (deleted (log (ms ++ [m]))).length ≤ (ms ++ [m]).countP (·.op.isCleanup) := by
    intro ms m ⟨coherent, few⟩ turn
    have few' := (turn.flow coherent).length_deleted_le
    calc (deleted (log (ms ++ [m]))).length
        = (deleted (log ms)).length + (deleted m.events).length := by
          rw [log_append, log_singleton, deleted_append, List.length_append]
      _ ≤ ms.countP (·.op.isCleanup) + m.op.isCleanup.toNat := Nat.add_le_add few few'
      _ = (ms ++ [m]).countP (·.op.isCleanup) := by
          rw [List.countP_append, List.countP_singleton]
          cases m.op.isCleanup <;> rfl
  obtain ⟨known, turn⟩ := history_induction connect c
    (I := fun ms x => x.Coherent ∧ (deleted (log ms)).length ≤ ms.countP (·.op.isCleanup))
    ⟨coherent_fresh connected, Nat.le_refl 0⟩
    (fun ms m known turn => ⟨turn.coherent known.1, next known turn⟩) h
  exact next known turn

/-- After a cleanup the pods that were created are those that were handed to deletion. -/
theorem created_eq_deleted (h : history connect c (fresh connected) ops w = pre ++ m :: post)
    (cleaned : m.op = .cleanup) : created (log (pre ++ [m])) = deleted (log (pre ++ [m])) := by
  obtain ⟨⟨coherent, balanced⟩, turn⟩ := balanced_of_history h
  have after := (turn.flow coherent).balanced balanced
  rw [← log_singleton m, ← log_append, Balanced] at after
  have free : m.after.pod = none := by
    unfold Moment.IsTurn at turn
    rw [cleaned] at turn
    exact turn.free_of_cleanup
  rw [after, free]
  exact List.append_nil _

/-- After every operation the pods that were created are, in order, those that were handed to
deletion and then the pod that is held.  So every pod is held or was handed to deletion, none more
often than it was created, and at most one is alive; nothing is held after a cleanup, and cleaning
up never finds a pod without knowing how to delete it. -/
theorem created_eq_deleted_append_held
    (h : history connect c (fresh connected) ops w = pre ++ m :: post) :
    let past := log (pre ++ [m])
    created past = deleted past ++ m.after.pod.toList ∧
      (∀ pod ∈ created past, pod ∈ deleted past ∨ m.after.pod = some pod) ∧
      (∀ pod, (deleted past).count pod ≤ (created past).count pod) ∧
      ((created past).Nodup → (deleted past).Nodup) ∧
      (created past).length ≤ (deleted past).length + 1 ∧
      (m.op = .cleanup → m.after.pod = none) ∧
      (m.before.pod.isSome → m.before.polling.isSome ∧ m.before.prepared.isSome) := by
  obtain ⟨⟨coherent, balanced⟩, turn⟩ := balanced_of_history h
  intro past
  have ledger : created past = deleted past ++ m.after.pod.toList := by
    have := (turn.flow coherent).balanced balanced
    rwa [Balanced, ← log_singleton m, ← log_append] at this
  refine ⟨ledger, fun pod hpod => ?_, fun pod => ?_, fun distinct => ?_, ?_, fun hop => ?_,
    fun held => ?_⟩
  · rw [ledger, List.mem_append, Option.mem_toList] at hpod
    exact hpod
  · rw [ledger, List.count_append]
    exact Nat.le_add_right ..
  · rw [ledger] at distinct
    exact (List.nodup_append.1 distinct).1
  · rw [ledger, List.length_append]
    have := Option.length_toList_le (o := m.after.pod)
    omega
  · unfold Moment.IsTurn at turn
    rw [hop] at turn
    exact turn.free_of_cleanup
  · have prepared := coherent.prepared held
    exact ⟨coherent.waits.trans prepared, prepared⟩

open Sample in
/-- The third run of a trial holds a second pod, after the first was handed to a deletion that
failed. -/
theorem sample_ledger : ∃ pre m post,
    trial [.prepare runner job, .run step none, .run step none, .cleanup, .run step none] =
        pre ++ m :: post ∧
      created (log (pre ++ [m])) = [⟨"1", "ci"⟩, ⟨"2", "ci"⟩] ∧
      deleted (log (pre ++ [m])) = [⟨"1", "ci"⟩] ∧
      created (log (pre ++ [m])) = deleted (log (pre ++ [m])) ++ m.after.pod.toList := by
  have h : trial [.prepare runner job, .run step none, .run step none, .cleanup, .run step none] =
      [_, _, _, _] ++ _ :: [] := rfl
  refine ⟨_, _, _, h, ?_, ?_, (created_eq_deleted_append_held h).1⟩
  · decide +kernel
  · decide +kernel

end PodRunner.Executor
