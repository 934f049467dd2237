import Mathlib
import PodRunner.Proofs.History
import PodRunner.Proofs.Timeline

/-!
# Polling within its budget

Polling stops at the first answer that is decisive, or at the last answer of its budget
(`Cluster.StopsAt`), and what it comes to is what that answer says, whatever came before
(`Cluster.conclusion`).  By then it has asked once for each answer, has slept between two answers,
and has written one line for each answer that was not decisive (`Cluster.awaitRunning_of_answers`).
-/

namespace PodRunner

theorem PollSettings.one_le_attempts (p : PollSettings) : 1 ≤ p.attempts := by
  unfold attempts
  split
  · exact Nat.le_refl 1
  · exact Nat.le_max_right ..

/-- A sequence goes on after a first part that ends with a value. -/
theorem Task.bind_of_value {α β : Type} {t : Task α} {f : α → Task β} {deadline : Option Nat}
    {w w' : World} {a : α} (h : t deadline w = (.value a, w')) :
    (t >>= f) deadline w = f a deadline w' := by
  rw [bind_apply, h]

namespace Cluster

/-- The answer settles what becomes of the pod: it has left its pending phase, waits for what never
comes, or is gone. -/
def decisive : Except ClusterError PodState → Bool
  | .ok s => s.phase ≠ .pending || s.waiting.isSome
  | .error (.api code _) => code = 404
  | .error _ => false

/-- What polling comes to if it stops at this answer. -/
def conclusion (pod : PodRef) : Except ClusterError PodState → Except Error Phase
  | .error e => .error (.podStatus e)
  | .ok ⟨.pending, some reason⟩ => .error (.podNotRunning ("Pending (" ++ reason ++ ")"))
  | .ok ⟨.pending, none⟩ => .error (.podStartTimeout pod.text .pending)
  | .ok ⟨phase, _⟩ => .ok phase

/-- What is written about an answer that is not decisive. -/
def note (pod : PodRef) : Except ClusterError PodState → List UInt8
  | .ok _ => Trace.line ("Waiting for pod " ++ pod.text ++ " to be running, status is Pending")
  | .error e =>
    Trace.warning ("Failed to get status of pod " ++ pod.text ++ ", retrying: " ++ e.message)

/-- Asking once. -/
def asked (pod : PodRef) (trace : String) (a : Except ClusterError PodState) : List Event :=
  .state pod (some a) :: if decisive a then [] else [.output trace (note pod a)]

/-- Of the answers with the numbers below `n`, polling stops at the one with the number `k`. -/
structure StopsAt (answers : Nat → Except ClusterError PodState) (n k : Nat) : Prop where
  within : k < n
  undecided : ∀ j < k, decisive (answers j) = false
  last : decisive (answers k) = true ∨ k + 1 = n

/-! ## One answer -/

/-- The failure in an answer. -/
def failure? : Except ClusterError PodState → Option ClusterError
  | .ok _ => none
  | .error e => some e

theorem decisive_error (e : ClusterError) : decisive (.error e) = e.notFound := by
  cases e <;> rfl

theorem waitingLine_eq (pod : PodRef) :
    waitingLine pod = "Waiting for pod " ++ pod.text ++ " to be running, status is Pending" :=
  String.append_assoc ..

theorem look_eq (pod : PodRef) (a : Except ClusterError PodState) :
    look pod a =
      if decisive a then .decided (conclusion pod a) else .pending (note pod a) (failure? a) := by
  match a with
  | .error e =>
    rw [decisive_error]
    rfl
  | .ok ⟨.pending, none⟩ => exact congrArg (Look.pending · none) (congrArg _ (waitingLine_eq pod))
  | .ok ⟨.pending, some _⟩ => rfl
  | .ok ⟨.running, _⟩ | .ok ⟨.succeeded, _⟩ | .ok ⟨.failed, _⟩ | .ok ⟨.unknown, _⟩ => rfl

/-- A budget that is used up leaves what its last answer says. -/
theorem exhausted_failure? (pod : PodRef) {a : Except ClusterError PodState}
    (undecided : decisive a = false) :
    .error (exhausted pod (failure? a)) = conclusion pod a := by
  match a with
  | .error e => rfl
  | .ok ⟨.pending, none⟩ => rfl
  | .ok ⟨.pending, some _⟩ => cases undecided
  | .ok ⟨.running, _⟩ | .ok ⟨.succeeded, _⟩ | .ok ⟨.failed, _⟩ | .ok ⟨.unknown, _⟩ =>
    cases undecided

section

variable {c : Cluster} {pod : PodRef} {w : World} {a : Except ClusterError PodState}
variable (answered : (c.state w.counts.state pod).outcome.answer? = some a)
variable (interval : Duration) (trace : String) (n : Nat)

include answered

/-- An attempt ends with a decisive answer. -/
theorem attempt_of_decisive (decided : decisive a = true)
    (next : Option ClusterError → Task (Except Error Phase)) :
    c.attempt pod trace next none w =
      (.value (conclusion pod a),
        w.after (asked pod trace a) (w.now + (c.state w.counts.state pod).delay)) := by
  have looked : look pod a = .decided (conclusion pod a) := by rw [look_eq, if_pos decided]
  unfold attempt
  rw [Task.bind_of_value (podState_of_answer answered), asked, if_pos decided]
  simp only [looked]
  rfl

/-- An attempt goes on after any other answer, which it has noted. -/
theorem attempt_of_undecided (undecided : decisive a = false)
    (next : Option ClusterError → Task (Except Error Phase)) :
    c.attempt pod trace next none w =
      next (failure? a) none
        (w.after (asked pod trace a) (w.now + (c.state w.counts.state pod).delay)) := by
  have undecided' : ¬ decisive a = true := by simp [undecided]
  have looked : look pod a = .pending (note pod a) (failure? a) := by
    rw [look_eq, if_neg undecided']
  unfold attempt
  rw [Task.bind_of_value (podState_of_answer answered), asked, if_neg undecided']
  simp only [looked]
  rfl

theorem poll_of_decisive (decided : decisive a = true) :
    c.poll interval pod trace n none w =
      (.value (conclusion pod a),
        w.after (asked pod trace a) (w.now + (c.state w.counts.state pod).delay)) := by
  cases n <;> exact attempt_of_decisive answered trace decided _

theorem poll_zero_of_undecided (undecided : decisive a = false) :
    c.poll interval pod trace 0 none w =
      (.value (conclusion pod a),
        w.after (asked pod trace a) (w.now + (c.state w.counts.state pod).delay)) := by
  unfold poll
  rw [attempt_of_undecided answered trace undecided, ← exhausted_failure? pod undecided]
  rfl

/-- Polling goes on after a sleep, with one attempt less. -/
theorem poll_succ_of_undecided (undecided : decisive a = false) :
    c.poll interval pod trace (n + 1) none w =
      c.poll interval pod trace n none
        (w.after (asked pod trace a)
          (w.now + (c.state w.counts.state pod).delay + interval.ticks)) := by
  conv => lhs; unfold poll
  rw [attempt_of_undecided answered trace undecided]
  exact Task.bind_of_value rfl

end

/-! ## All answers -/

variable {answers : Nat → Except ClusterError PodState} {n k : Nat}

theorem exists_stopsAt (answers : Nat → Except ClusterError PodState) (n : Nat) :
    ∃ k, StopsAt answers (n + 1) k := by
  induction n generalizing answers with
  | zero => exact ⟨0, Nat.zero_lt_one, by simp, .inr rfl⟩
  | succ n ih =>
    by_cases first : decisive (answers 0) = true
    · exact ⟨0, Nat.succ_pos _, by simp, .inl first⟩
    · obtain ⟨k, stops⟩ := ih fun j => answers (j + 1)
      refine ⟨k + 1, Nat.succ_lt_succ stops.within, fun j hj => ?_,
        stops.last.imp_right (congrArg (· + 1))⟩
      cases j with
      | zero => simpa using first
      | succ j => exact stops.undecided j (Nat.lt_of_succ_lt_succ hj)

/-- Asking for the answers with the numbers below `k`. -/
def askedAll (pod : PodRef) (trace : String) (answers : Nat → Except ClusterError PodState)
    (k : Nat) : List Event :=
  (List.range k).flatMap fun j => asked pod trace (answers j)

/-- How long `k` answers take, from the one with the number `first` on. -/
def delays (c : Cluster) (pod : PodRef) (first k : Nat) : Nat :=
  ((List.range k).map fun j => (c.state (first + j) pod).delay).sum

theorem askedAll_succ (pod : PodRef) (trace : String)
    (answers : Nat → Except ClusterError PodState) (k : Nat) :
    askedAll pod trace answers (k + 1) =
      askedAll pod trace answers k ++ asked pod trace (answers k) := by
  simp only [askedAll, List.range_succ, List.flatMap_append, List.flatMap_singleton]

theorem delays_succ (c : Cluster) (pod : PodRef) (first k : Nat) :
    delays c pod first (k + 1) = delays c pod first k + (c.state (first + k) pod).delay := by
  simp only [delays, List.range_succ, List.map_append, List.sum_append, List.map_singleton,
    List.sum_singleton]

theorem counts_asked (pod : PodRef) (trace : String) (a : Except ClusterError PodState)
    (m : Counts) :
    ((asked pod trace a).foldl Counts.after m).state = m.state + 1 := by
  unfold asked
  split <;> rfl

theorem counts_askedAll (pod : PodRef) (trace : String)
    (answers : Nat → Except ClusterError PodState) (k : Nat) (m : Counts) :
    ((askedAll pod trace answers k).foldl Counts.after m).state = m.state + k := by
  induction k with
  | zero => rfl
  | succ k ih => rw [askedAll_succ, List.foldl_append, counts_asked, ih, Nat.add_assoc]

theorem calls_askedAll (pod : PodRef) (trace : String)
    (answers : Nat → Except ClusterError PodState) (k : Nat) :
    calls (askedAll pod trace answers k) =
      (List.range k).map fun j => .state pod (some (answers j)) := by
  induction k with
  | zero => rfl
  | succ k ih =>
    have one : calls (asked pod trace (answers k)) = [.state pod (some (answers k))] := by
      unfold asked
      split <;> rfl
    rw [askedAll_succ, calls_append, one, ih, List.range_succ, List.map_append, List.map_singleton]

section

variable (c : Cluster) (interval : Duration) (pod : PodRef) (trace : String) (w : World)

/-- The world in which polling goes on after `k` answers that were not decisive. -/
def afterAsked (answers : Nat → Except ClusterError PodState) (k : Nat) : World :=
  w.after (askedAll pod trace answers k)
    (w.now + delays c pod w.counts.state k + k * interval.ticks)

variable {w}

theorem counts_afterAsked :
    (afterAsked c interval pod trace w answers k).counts.state = w.counts.state + k :=
  counts_askedAll pod trace answers k w.counts

theorem after_afterAsked (now : Nat) :
    (afterAsked c interval pod trace w answers k).after (asked pod trace (answers k)) now =
      w.after (askedAll pod trace answers (k + 1)) now := by
  rw [afterAsked, World.after_after, ← askedAll_succ]

theorem answer_afterAsked
    (h : (c.state (w.counts.state + k) pod).outcome.answer? = some (answers k)) :
    (c.state (afterAsked c interval pod trace w answers k).counts.state pod).outcome.answer? =
      some (answers k) := by
  rwa [counts_afterAsked]

/-- The moment at which the next answer comes. -/
theorem now_afterAsked (answers : Nat → Except ClusterError PodState) (k : Nat) :
    (afterAsked c interval pod trace w answers k).now +
        (c.state (afterAsked c interval pod trace w answers k).counts.state pod).delay =
      w.now + delays c pod w.counts.state (k + 1) + k * interval.ticks := by
  rw [counts_afterAsked, delays_succ, afterAsked, World.now_after]
  omega

/-- As long as no answer is decisive, polling goes on, with one attempt less for each of them. -/
theorem poll_of_undecided (n : Nat)
    (answered : ∀ j < k, (c.state (w.counts.state + j) pod).outcome.answer? = some (answers j))
    (undecided : ∀ j < k, decisive (answers j) = false) :
    c.poll interval pod trace (n + k) none w =
      c.poll interval pod trace n none (afterAsked c interval pod trace w answers k) := by
  induction k generalizing n with
  | zero =>
    have unchanged : afterAsked c interval pod trace w answers 0 = w := by
      simp [afterAsked, askedAll, delays]
    rw [unchanged]
    rfl
  | succ k ih =>
    let earlier := afterAsked c interval pod trace w answers k
    have last := answer_afterAsked c interval pod trace (answered k (Nat.lt_succ_self k))
    have spent : earlier.now + (c.state earlier.counts.state pod).delay + interval.ticks =
        w.now + delays c pod w.counts.state (k + 1) + (k + 1) * interval.ticks := by
      rw [now_afterAsked, Nat.succ_mul, Nat.add_assoc _ _ interval.ticks]
    calc c.poll interval pod trace (n + (k + 1)) none w
      _ = c.poll interval pod trace (n + 1 + k) none w := by rw [Nat.add_right_comm, Nat.add_assoc]
      _ = c.poll interval pod trace (n + 1) none earlier :=
        ih (n + 1) (fun j hj => answered j (Nat.lt_succ_of_lt hj))
          fun j hj => undecided j (Nat.lt_succ_of_lt hj)
      _ = c.poll interval pod trace n none _ :=
        poll_succ_of_undecided last interval trace n (undecided k (Nat.lt_succ_self k))
      _ = _ := by rw [after_afterAsked, spent]; rfl

theorem poll_of_stopsAt
    (answered : ∀ j < n + 1, (c.state (w.counts.state + j) pod).outcome.answer? = some (answers j))
    (stops : StopsAt answers (n + 1) k) :
    c.poll interval pod trace n none w =
      (.value (conclusion pod (answers k)),
        w.after (askedAll pod trace answers (k + 1))
          (w.now + delays c pod w.counts.state (k + 1) + k * interval.ticks)) := by
  obtain ⟨m, rfl⟩ := Nat.exists_eq_add_of_le' (Nat.le_of_lt_succ stops.within)
  have last := answer_afterAsked c interval pod trace (answered k stops.within)
  rw [poll_of_undecided c interval pod trace m
    (fun j hj => answered j (hj.trans stops.within)) stops.undecided,
    ← now_afterAsked c interval pod trace answers, ← after_afterAsked]
  cases decided : decisive (answers k) with
  | true => exact poll_of_decisive last interval trace m decided
  | false =>
    -- The budget is used up.
    obtain rfl : m = 0 := by
      have := stops.last.resolve_left (by simp [decided])
      omega
    exact poll_zero_of_undecided last interval trace decided

end

/-- Let the settings be in whole milliseconds and let all answers within the budget return.  Polling
stops at the first of these answers that is decisive, or else at the last one, and comes to what
that answer says.  By then it has asked for each answer up to it, once and in order, with a note
after each one that is not decisive; it has taken as long as these answers took, and one interval
between two of them. -/
theorem awaitRunning_of_answers (c : Cluster) (pod : PodRef) (trace : String) (w : World)
    {settings : PollSettings} {interval timeout : Nat}
    (whole : settings = ⟨.ofMillis interval, .ofMillis timeout⟩)
    {answers : Nat → Except ClusterError PodState}
    (answered : ∀ j < settings.attempts,
      (c.state (w.counts.state + j) pod).outcome.answer? = some (answers j)) :
    (∃ k, StopsAt answers settings.attempts k) ∧
      ∀ k, StopsAt answers settings.attempts k →
        c.awaitRunning settings pod trace none w =
            (.value (conclusion pod (answers k)),
              w.after (askedAll pod trace answers (k + 1))
                (w.now + delays c pod w.counts.state (k + 1) + k * interval)) ∧
          calls (askedAll pod trace answers (k + 1)) =
            (List.range (k + 1)).map fun j => .state pod (some (answers j)) := by
  have budget : settings.attempts = settings.attempts - 1 + 1 := by
    have := settings.one_le_attempts
    omega
  have ticks : settings.interval.ticks = interval := by
    rw [whole]
    show (interval * 1000000 + 999999) / 1000000 = interval
    omega
  rw [budget] at answered ⊢
  refine ⟨exists_stopsAt answers _, fun k stops => ⟨?_, calls_askedAll pod trace answers _⟩⟩
  have polled := poll_of_stopsAt c settings.interval pod trace answered stops
  rwa [ticks] at polled

open Sample in
/-- Of four answers that are allowed, the first one finds the pod pending and the second one finds
it running. -/
theorem sample_polling :
    let pod : PodRef := ⟨"1", "ci"⟩
    let settings : PollSettings := ⟨.ofMillis 5, .ofMillis 20⟩
    cluster.awaitRunning settings pod "main" none {} =
      (.value (.ok .running), World.after {}
        [.state pod (some (.ok ⟨.pending, none⟩)),
          .output "main" (Trace.line "Waiting for pod ci/1 to be running, status is Pending"),
          .state pod (some (.ok ⟨.running, none⟩))] 25) := by
  intro pod settings
  let answers (j : Nat) : Except ClusterError PodState :=
    .ok ⟨if j = 0 then .pending else .running, none⟩
  have stops : StopsAt answers settings.attempts 1 := by
    refine ⟨by decide, fun j hj => ?_, .inl rfl⟩
    obtain rfl : j = 0 := Nat.lt_one_iff.1 hj
    rfl
  have answered : ∀ j < settings.attempts,
      (cluster.state (({} : World).counts.state + j) pod).outcome.answer? = some (answers j) := by
    intro j _
    show some (Except.ok (PodState.mk (if 0 + j = 0 then .pending else .running) none)) = _
    rw [Nat.zero_add]
  exact ((awaitRunning_of_answers cluster pod "main" {} rfl answered).2 1 stops).1

end Cluster

end PodRunner
