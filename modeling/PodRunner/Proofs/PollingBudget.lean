import PodRunner.Proofs.BoundedPolling
import PodRunner.Proofs.Demands

/-!
# The polling budget in time

Settings that were accepted allow as many looks at a pod as intervals fit into the timeout, up to
the largest 32-bit number, and these numbers are computed without overflow
(`ClusterSettings.budget_of_valid`).  Other settings need not keep to their timeout: the number of
looks is counted in whole milliseconds, so an interval that is not a whole number of them sleeps
longer than was counted (`PollSettings.slept_le_iff`, `PollSettings.sample_overslept`).
-/

namespace PodRunner

/-! ## Numbers of a fixed width -/

/-- The number, if it has so many bits at most. -/
def fit? (bits n : Nat) : Option Nat := if n < 2 ^ bits then some n else none

/-- The quotient, if there is one. -/
def quotient? (n d : Nat) : Option Nat := if d = 0 then none else some (n / d)

theorem fit?_of_lt {bits n : Nat} (h : n < 2 ^ bits) : fit? bits n = some n := if_pos h

theorem quotient?_of_ne {n d : Nat} (h : d ≠ 0) : quotient? n d = some (n / d) := if_neg h

/-- Whole milliseconds, computed in 128 bits. -/
def Duration.millis? (d : Duration) : Option Nat := do
  let whole ← fit? 128 (d.seconds * 1000)
  fit? 128 (whole + d.nanos % 1000000000 / 1000000)

theorem Duration.millis?_eq {d : Duration} (h : d.seconds < 2 ^ 64) : d.millis? = some d.millis := by
  have whole : d.seconds * 1000 < 2 ^ 128 := by omega
  have all : d.seconds * 1000 + d.nanos % 1000000000 / 1000000 = d.millis := by
    unfold seconds millis
    omega
  have bound : d.millis < 2 ^ 128 := by omega
  unfold millis?
  rw [fit?_of_lt whole, Option.bind_eq_bind, Option.bind_some, all, fit?_of_lt bound]

namespace PollSettings

/-- How often to look, computed in 128 bits and cut to 32. -/
def attempts? (p : PollSettings) : Option Nat :=
  if p.interval.nanos = 0 then some 1
  else do
    let timeout ← p.timeout.millis?
    let interval ← p.interval.millis?
    let attempts ← quotient? timeout (max interval 1)
    return max ((fit? 32 attempts).getD maxAttempts) 1

theorem getD_fit? (n : Nat) : (fit? 32 n).getD maxAttempts = min n maxAttempts := by
  have largest : maxAttempts = 2 ^ 32 - 1 := rfl
  unfold fit?
  split
  · rw [Option.getD_some]
    omega
  · rw [Option.getD_none]
    omega

theorem attempts?_eq {p : PollSettings} (interval : p.interval.seconds < 2 ^ 64)
    (timeout : p.timeout.seconds < 2 ^ 64) : p.attempts? = some p.attempts := by
  have divisor : max p.interval.millis 1 ≠ 0 := by omega
  unfold attempts? attempts
  rw [Duration.millis?_eq interval, Duration.millis?_eq timeout]
  split
  · rfl
  · simp only [Option.bind_eq_bind, Option.bind_some, quotient?_of_ne divisor, getD_fit?]
    rfl

/-! ## The time that is slept -/

/-- The time that is slept if every look is followed by another one. -/
def slept (p : PollSettings) : Duration := ⟨(p.attempts - 1) * p.interval.nanos⟩

theorem one_le_maxAttempts : 1 ≤ maxAttempts := by decide

variable {p : PollSettings}

theorem attempts_le (more : 1 < p.attempts) :
    p.attempts ≤ p.timeout.millis / max p.interval.millis 1 ∧ p.attempts ≤ maxAttempts := by
  have positive := one_le_maxAttempts
  unfold attempts at more ⊢
  split at more
  · omega
  · next some_interval =>
    rw [if_neg some_interval]
    omega

/-- In whole milliseconds, as many intervals as looks fit into the timeout. -/
theorem attempts_mul_le (more : 1 < p.attempts) :
    p.attempts * (max p.interval.millis 1 * 1000000) ≤ p.timeout.nanos := by
  have counted : p.attempts * max p.interval.millis 1 ≤ p.timeout.millis :=
    (Nat.le_div_iff_mul_le (by omega)).1 (attempts_le more).1
  rw [← Nat.mul_assoc]
  exact (Nat.le_div_iff_mul_le (by decide)).1 counted

/-- What is slept is known from what is slept for one look. -/
theorem slept_le {k : Nat} (h : 1 < p.attempts →
    (p.attempts - 1) * p.interval.nanos ≤ k * (p.attempts * (max p.interval.millis 1 * 1000000))) :
    p.slept.nanos ≤ k * p.timeout.nanos := by
  by_cases more : 1 < p.attempts
  · exact (h more).trans (Nat.mul_le_mul_left k (attempts_mul_le more))
  · have once : p.attempts - 1 = 0 := by omega
    simp [slept, once]

end PollSettings

/-- What a span of time has beyond whole milliseconds. -/
def Duration.fraction (d : Duration) : Nat := d.nanos % 1000000

theorem Duration.nanos_eq (d : Duration) : d.nanos = d.millis * 1000000 + d.fraction :=
  (Nat.div_add_mod' d.nanos 1000000).symm

theorem Duration.fraction_lt (d : Duration) : d.fraction < 1000000 := Nat.mod_lt _ (by decide)

namespace PollSettings

variable {p : PollSettings}

theorem slept_le_twice (p : PollSettings) : p.slept.nanos ≤ 2 * p.timeout.nanos := by
  refine slept_le fun _ => ?_
  have interval : p.interval.nanos ≤ 2 * (max p.interval.millis 1 * 1000000) := by
    have := p.interval.nanos_eq
    have := p.interval.fraction_lt
    omega
  calc (p.attempts - 1) * p.interval.nanos
      ≤ p.attempts * (2 * (max p.interval.millis 1 * 1000000)) :=
        Nat.mul_le_mul (Nat.sub_le ..) interval
    _ = 2 * (p.attempts * (max p.interval.millis 1 * 1000000)) := Nat.mul_left_comm ..

theorem slept_le_of_short (short : p.interval.millis = 0) : p.slept.nanos ≤ p.timeout.nanos := by
  rw [← Nat.one_mul p.timeout.nanos]
  refine slept_le fun _ => ?_
  have interval : p.interval.nanos ≤ max p.interval.millis 1 * 1000000 := by
    have := p.interval.nanos_eq
    have := p.interval.fraction_lt
    omega
  rw [Nat.one_mul]
  exact Nat.mul_le_mul (Nat.sub_le ..) interval

/-- All fractions that can be slept are less than one interval. -/
theorem slept_le_of_fraction
    (small : (maxAttempts - 1) * p.interval.fraction ≤ p.interval.millis * 1000000) :
    p.slept.nanos ≤ p.timeout.nanos := by
  rw [← Nat.one_mul p.timeout.nanos]
  refine slept_le fun more => ?_
  have whole : p.interval.millis * 1000000 ≤ max p.interval.millis 1 * 1000000 :=
    Nat.mul_le_mul_right _ (le_max_left ..)
  have fractions : (p.attempts - 1) * p.interval.fraction ≤ p.interval.millis * 1000000 := by
    refine le_trans (Nat.mul_le_mul_right _ ?_) small
    exact Nat.sub_le_sub_right (attempts_le more).2 1
  calc (p.attempts - 1) * p.interval.nanos
      = (p.attempts - 1) * (p.interval.millis * 1000000) +
          (p.attempts - 1) * p.interval.fraction := by
        rw [p.interval.nanos_eq, Nat.mul_add]
    _ ≤ (p.attempts - 1) * (p.interval.millis * 1000000) + p.interval.millis * 1000000 :=
        Nat.add_le_add_left fractions _
    _ = p.attempts * (p.interval.millis * 1000000) := by
        rw [← Nat.succ_mul, Nat.succ_eq_add_one, Nat.sub_add_cancel more.le]
    _ ≤ 1 * (p.attempts * (max p.interval.millis 1 * 1000000)) := by
        rw [Nat.one_mul]
        exact Nat.mul_le_mul_left _ whole

/-- A timeout of so many whole milliseconds allows the largest number of looks. -/
theorem attempts_eq_maxAttempts {interval : Duration} (long : interval.millis ≠ 0) :
    attempts ⟨interval, .ofMillis (maxAttempts * interval.millis)⟩ = maxAttempts := by
  have some_interval : interval.nanos ≠ 0 := by
    have := interval.nanos_eq
    omega
  have whole : (Duration.ofMillis (maxAttempts * interval.millis)).millis =
      maxAttempts * interval.millis := Nat.mul_div_cancel _ (by decide)
  have divisor : max interval.millis 1 = interval.millis := by omega
  unfold attempts
  rw [if_neg some_interval, whole, divisor, Nat.mul_div_cancel _ (Nat.pos_of_ne_zero long),
    Nat.min_self, Nat.max_eq_left one_le_maxAttempts]

/-- The timeout that is overslept if any is has its seconds in 64 bits. -/
theorem seconds_lt_of_large {interval : Duration}
    (large : interval.millis * 1000000 < (maxAttempts - 1) * interval.fraction) :
    (Duration.ofMillis (maxAttempts * interval.millis)).seconds < 2 ^ 64 := by
  have cut : maxAttempts = 2 ^ 32 - 1 := rfl
  have few : interval.millis < maxAttempts := by
    have := interval.fraction_lt
    rw [cut] at large ⊢
    omega
  rw [cut] at few ⊢
  show (2 ^ 32 - 1) * interval.millis * 1000000 / 1000000000 < 2 ^ 64
  omega

/-- No timeout is overslept exactly if the interval is shorter than a millisecond, or if all that it
has beyond whole milliseconds is less than the interval even when it is slept as often as possible. -/
theorem slept_le_iff (interval : Duration) :
    (∀ timeout : Duration, timeout.seconds < 2 ^ 64 →
      (PollSettings.mk interval timeout).slept.nanos ≤ timeout.nanos) ↔
      interval.millis = 0 ∨
        (maxAttempts - 1) * interval.fraction ≤ interval.millis * 1000000 := by
  constructor
  · intro fits
    -- The timeout that allows as many looks as there can be is overslept if any timeout is.
    by_contra broken
    obtain ⟨long, large⟩ := not_or.1 broken
    have slept : (maxAttempts - 1) * interval.nanos ≤ maxAttempts * (interval.millis * 1000000) := by
      have within := fits _ (seconds_lt_of_large (Nat.not_le.1 large))
      rw [PollSettings.slept, attempts_eq_maxAttempts long] at within
      rwa [← Nat.mul_assoc]
    have split : maxAttempts * (interval.millis * 1000000) =
        (maxAttempts - 1) * (interval.millis * 1000000) + interval.millis * 1000000 := by
      rw [← Nat.succ_mul, Nat.succ_eq_add_one, Nat.sub_add_cancel one_le_maxAttempts]
    rw [interval.nanos_eq, Nat.mul_add, split] at slept
    exact large (Nat.le_of_add_le_add_left slept)
  · rintro (short | small) timeout -
    · exact slept_le_of_short short
    · exact slept_le_of_fraction small

/-- What a clock of milliseconds counts for the sleeps stays within the timeout, if the interval is
shorter than a millisecond or a whole number of them. -/
theorem ticks_le (even : p.interval.millis = 0 ∨ p.interval.fraction = 0) :
    (p.attempts - 1) * p.interval.ticks * 1000000 ≤ p.timeout.nanos := by
  by_cases more : 1 < p.attempts
  · -- The clock rounds an interval up, which must not exceed what was divided by.
    have counted : p.interval.ticks ≤ max p.interval.millis 1 := by
      have := p.interval.nanos_eq
      have := p.interval.fraction_lt
      unfold Duration.ticks
      omega
    rw [Nat.mul_assoc]
    refine le_trans (Nat.mul_le_mul (Nat.sub_le ..) ?_) (attempts_mul_le more)
    exact Nat.mul_le_mul_right _ counted
  · have once : p.attempts - 1 = 0 := by omega
    simp [once]

end PollSettings

/-! ## Pods that stay pending -/

namespace Cluster

/-- So many looks at the pod find it pending, and not stuck. -/
def StaysPending (c : Cluster) (pod : PodRef) (first n : Nat) : Prop :=
  ∀ j < n, (c.state (first + j) pod).outcome = .returns ⟨.pending, none⟩

variable {c : Cluster} {pod : PodRef} {w : World} {settings : PollSettings}

/-- The budget is used up for a pod that stays pending. -/
theorem awaitRunning_of_pending (trace : String)
    (pending : c.StaysPending pod w.counts.state settings.attempts) :
    ∃ es, c.awaitRunning settings pod trace none w =
        (.value (.error (.podStartTimeout pod.text .pending)),
          w.after es (w.now + delays c pod w.counts.state settings.attempts +
            (settings.attempts - 1) * settings.interval.ticks)) ∧
      calls es = List.replicate settings.attempts (.state pod (some (.ok ⟨.pending, none⟩))) := by
  have budget : settings.attempts = settings.attempts - 1 + 1 := by
    have := settings.one_le_attempts
    omega
  let answers (_ : Nat) : Except ClusterError PodState := .ok ⟨.pending, none⟩
  have answered : ∀ j < settings.attempts - 1 + 1,
      (c.state (w.counts.state + j) pod).outcome.answer? = some (answers j) := by
    intro j hj
    rw [pending j (by omega)]
    rfl
  have stops : StopsAt answers (settings.attempts - 1 + 1) (settings.attempts - 1) :=
    ⟨Nat.lt_succ_self _, fun _ _ => rfl, .inr rfl⟩
  refine ⟨askedAll pod trace answers settings.attempts, ?_, ?_⟩
  · have polled := poll_of_stopsAt c settings.interval pod trace answered stops
    rwa [← budget] at polled
  · rw [calls_askedAll]
    show (List.range _).map (fun _ => Event.state pod (some (.ok ⟨.pending, none⟩))) = _
    rw [List.map_const', List.length_range]

end Cluster

/-! ## Budgets -/

/-- No timeout is overslept by looks at a pod that stays pending exactly if the interval is shorter
than a millisecond, or if what it has beyond whole milliseconds is less than the interval even when
it is slept as often as possible.  Twice the timeout is never overslept.  The clock, which counts
milliseconds, agrees if the interval is shorter than one of them or a whole number of them. -/
theorem PollSettings.timeout_kept_iff (interval : Duration) :
    ((∀ timeout : Duration, timeout.seconds < 2 ^ 64 →
        (attempts ⟨interval, timeout⟩ - 1) * interval.nanos ≤ timeout.nanos) ↔
      interval.millis = 0 ∨ (2 ^ 32 - 2) * interval.fraction ≤ interval.millis * 1000000) ∧
    (∀ timeout, (attempts ⟨interval, timeout⟩ - 1) * interval.nanos ≤ 2 * timeout.nanos) ∧
    ∀ timeout c pod trace w,
      Cluster.StaysPending c pod w.counts.state (attempts ⟨interval, timeout⟩) →
      ∃ es sleeps, c.awaitRunning ⟨interval, timeout⟩ pod trace none w =
          (.value (.error (.podStartTimeout pod.text .pending)),
            w.after es (w.now + Cluster.delays c pod w.counts.state (attempts ⟨interval, timeout⟩) +
              sleeps)) ∧
        sleeps = (attempts ⟨interval, timeout⟩ - 1) * interval.ticks ∧
        (interval.millis = 0 ∨ interval.fraction = 0 → sleeps * 1000000 ≤ timeout.nanos) := by
  refine ⟨slept_le_iff interval, fun timeout => slept_le_twice ⟨interval, timeout⟩, ?_⟩
  intro timeout c pod trace w pending
  obtain ⟨es, awaited, -⟩ := Cluster.awaitRunning_of_pending trace pending
  exact ⟨es, _, awaited, rfl, ticks_le (p := ⟨interval, timeout⟩)⟩

/-- Of a pod that always stays pending the first look takes 10, and so does the second one. -/
def Sample.stuck : Cluster := { cluster with state := fun _ _ => ⟨10, .returns ⟨.pending, none⟩⟩ }

open Sample in
/-- Two looks are allowed, and one interval is slept. -/
theorem PollSettings.sample_timeout_kept :
    let settings : PollSettings := ⟨.ofMillis 5, .ofMillis 12⟩
    ∃ es, stuck.awaitRunning settings ⟨"1", "ci"⟩ "main" none {} =
        (.value (.error (.podStartTimeout "ci/1" .pending)), World.after {} es 25) ∧
      5 * 1000000 ≤ settings.timeout.nanos := by
  intro settings
  obtain ⟨es, sleeps, awaited, rfl, kept⟩ := (timeout_kept_iff (.ofMillis 5)).2.2 (.ofMillis 12)
    stuck ⟨"1", "ci"⟩ "main" {} fun _ _ => rfl
  exact ⟨es, awaited, kept (.inr rfl)⟩

/-- Nine looks are allowed, with eight intervals of a millisecond and a half between them, which is
longer than the timeout of nine milliseconds. -/
theorem PollSettings.sample_overslept :
    let settings : PollSettings := ⟨⟨1500000⟩, ⟨9000000⟩⟩
    settings.attempts = 9 ∧
      ¬ (settings.attempts - 1) * settings.interval.nanos ≤ settings.timeout.nanos := by
  decide

/-- In whole seconds, intervals are counted exactly. -/
theorem ClusterSettings.attempts_poll {s : ClusterSettings} (positive : 0 < s.pollIntervalSeconds)
    (long : s.pollIntervalSeconds ≤ s.pollTimeoutSeconds) :
    s.poll.attempts =
      min (s.pollTimeoutSeconds / s.pollIntervalSeconds) PollSettings.maxAttempts := by
  have some_interval : s.poll.interval.nanos ≠ 0 := by
    show s.pollIntervalSeconds * 1000000000 ≠ 0
    omega
  have millis (seconds : Nat) : (Duration.ofSeconds seconds).millis = seconds * 1000 := by
    show seconds * 1000000000 / 1000000 = seconds * 1000
    omega
  have interval : max s.poll.interval.millis 1 = s.pollIntervalSeconds * 1000 := by
    have := millis s.pollIntervalSeconds
    show max (Duration.ofSeconds s.pollIntervalSeconds).millis 1 = _
    omega
  have timeout : s.poll.timeout.millis = s.pollTimeoutSeconds * 1000 := millis _
  have once : 1 ≤ s.pollTimeoutSeconds / s.pollIntervalSeconds :=
    (Nat.one_le_div_iff positive).2 long
  rw [PollSettings.attempts, if_neg some_interval, interval, timeout,
    Nat.mul_div_mul_right _ _ (by decide)]
  exact Nat.max_eq_left (le_min once PollSettings.one_le_maxAttempts)

/-- Let settings be accepted, with an interval of `i` and a timeout of `t` seconds in 64 bits.  Then
the number of looks is computed without overflow.  It is the number of intervals that fit into the
timeout, cut to 32 bits.  A pod that stays pending is looked at so often, and then given up. -/
theorem ClusterSettings.budget_of_valid {s : ClusterSettings} (valid : s.validate = .ok ())
    (interval : s.pollIntervalSeconds < 2 ^ 64) (timeout : s.pollTimeoutSeconds < 2 ^ 64) :
    let i := s.pollIntervalSeconds
    let t := s.pollTimeoutSeconds
    let n := s.poll.attempts
    s.poll.attempts? = some n ∧ n = min (t / i) (2 ^ 32 - 1) ∧ 1 ≤ n ∧ n * i ≤ t ∧
      (t / i ≤ 2 ^ 32 - 1 → t < (n + 1) * i) ∧
      ∀ c pod trace w, Cluster.StaysPending c pod w.counts.state n →
        ∃ es later, c.awaitRunning s.poll pod trace none w =
            (.value (.error (.podStartTimeout pod.text .pending)), w.after es later) ∧
          calls es = List.replicate n (.state pod (some (.ok ⟨.pending, none⟩))) := by
  intro i t n
  have demanded := s.decides_validate.accepts.1 ⟨(), valid⟩
  have positive : 0 < i := demanded (.of (0 < i) (.config .noInterval)) (by simp [demands, i])
  have long : i ≤ t := demanded (.of (i ≤ t) (.config (.shortTimeout t i))) (by
    simp [demands, i, t])
  have exactly : n = min (t / i) (2 ^ 32 - 1) := attempts_poll positive long
  have seconds (k : Nat) : (Duration.ofSeconds k).seconds = k := Nat.mul_div_cancel k (by decide)
  refine ⟨?_, exactly, s.poll.one_le_attempts, ?_, fun uncut => ?_, fun c pod trace w pending => ?_⟩
  · refine PollSettings.attempts?_eq ?_ ?_
    · exact (seconds i).trans_lt interval
    · exact (seconds t).trans_lt timeout
  · rw [exactly]
    exact (Nat.le_div_iff_mul_le positive).1 (Nat.min_le_left ..)
  · rw [exactly, Nat.min_eq_left uncut, Nat.mul_comm]
    exact Nat.lt_mul_div_succ t positive
  · obtain ⟨es, awaited, asked⟩ := Cluster.awaitRunning_of_pending trace pending
    exact ⟨es, _, awaited, asked⟩

open Sample in
/-- Two intervals of two seconds fit into five. -/
theorem ClusterSettings.sample_budget :
    let s : ClusterSettings := { pollIntervalSeconds := 2, pollTimeoutSeconds := 5 }
    s.validate = .ok () ∧ s.poll.attempts? = some 2 ∧ 2 * 2 ≤ 5 ∧ 5 < (2 + 1) * 2 ∧
      ∃ es later, stuck.awaitRunning s.poll ⟨"1", "ci"⟩ "main" none {} =
          (.value (.error (.podStartTimeout "ci/1" .pending)), World.after {} es later) ∧
        calls es = List.replicate 2 (.state ⟨"1", "ci"⟩ (some (.ok ⟨.pending, none⟩))) := by
  have valid : ClusterSettings.validate { pollIntervalSeconds := 2, pollTimeoutSeconds := 5 } =
      .ok () := rfl
  obtain ⟨computed, -, -, fits, next, pending⟩ := budget_of_valid valid (by decide) (by decide)
  exact ⟨valid, computed, fits, next (by decide), pending stuck ⟨"1", "ci"⟩ "main" {} fun _ _ => rfl⟩

end PodRunner
