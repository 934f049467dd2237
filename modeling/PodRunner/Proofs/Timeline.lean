import Mathlib.Data.List.Basic
import PodRunner.Proofs.Tasks

/-!
# Timelines

A `Timeline` says what a task does, when, and how it ends, if nobody interrupts it.  A task is
`Task.Timed` if interrupting it is cutting its timeline: up to that moment it does what it would
have done anyway, except that a call whose answer would have come too late has none.  The timeline
depends on the time and on the number of calls so far, and not on other events.  All that a step
does is timed (`Cluster.timed_runScript`).
-/

namespace PodRunner

/-- The call without its answer. -/
def Event.unanswered : Event → Event
  | .create spec _ => .create spec none
  | .state pod _ => .state pod none
  | .exec pod request _ => .exec pod request none
  | .delete pod _ => .delete pod none
  | .output trace bytes => .output trace bytes

/-- How a call ends if nobody interrupts it. -/
def Outcome.ended {α : Type} : Outcome α → Ended (Except ClusterError α)
  | .returns a => .value (.ok a)
  | .fails e => .value (.error e)
  | .crashes text => .crash text
  | .hangs => .never

theorem Outcome.ended_of_answer {α : Type} (o : Outcome α) {answer : Except ClusterError α}
    (h : o.answer? = some answer) : o.ended = .value answer := by
  cases o with
  | returns | fails =>
    obtain rfl := Option.some.inj h
    rfl
  | crashes | hangs => cases h

/-- The number of calls after an event. -/
def Counts.after (n : Counts) : Event → Counts
  | .create .. => { n with create := n.create + 1 }
  | .state .. => { n with state := n.state + 1 }
  | .exec .. => { n with exec := n.exec + 1 }
  | .delete .. => { n with delete := n.delete + 1 }
  | .output .. => n

theorem Outcome.ended_ne_cut {α : Type} (o : Outcome α) : o.ended ≠ .cut := by
  cases o <;> simp [Outcome.ended]

namespace World

/-- The world at a moment, after some more events. -/
def after (w : World) (es : List Event) (now : Nat) : World :=
  ⟨now, es.foldl Counts.after w.counts, es.reverse ++ w.past⟩

variable (w : World) (es fs : List Event) (m n : Nat)

@[simp] theorem now_after : (w.after es n).now = n := rfl

@[simp] theorem events_after : (w.after es n).events = w.events ++ es := by
  simp [after, events]

@[simp] theorem after_after : (w.after es m).after fs n = w.after (es ++ fs) n := by
  simp [after]

@[simp] theorem after_nil : w.after [] w.now = w := rfl

end World

/-- What a task does at a moment.  The answer of a call may come later. -/
structure Entry where
  moment : Nat
  event : Event
  answered : Nat

namespace Entry

/-- What is done if the task is interrupted. -/
def until? (deadline : Option Nat) (e : Entry) : Option Event :=
  if Task.before e.moment deadline then
    some (if Task.before e.answered deadline then e.event else e.event.unanswered)
  else none

end Entry

/-- What a task does if nobody interrupts it, and how it ends. -/
structure Timeline (α : Type) where
  entries : List Entry
  ended : Ended α
  /-- The moment at which the task ends, or from which on it only waits. -/
  stop : Nat

namespace Timeline

variable {α β : Type}

/-- The events of the task if it is interrupted. -/
def events (tl : Timeline α) (deadline : Option Nat) : List Event :=
  tl.entries.filterMap (Entry.until? deadline)

/-- The task has ended when it is to be interrupted. -/
def endsBefore (tl : Timeline α) : Option Nat → Bool
  | none => true
  | some deadline =>
    match tl.ended with
    | .never => false
    | _ => tl.stop < deadline

/-- What the task comes to if it is interrupted. -/
def run (tl : Timeline α) (deadline : Option Nat) (w : World) : Ended α × World :=
  if tl.endsBefore deadline then (tl.ended, w.after (tl.events deadline) tl.stop)
  else (.cut, w.after (tl.events deadline) (deadline.getD tl.stop))

/-- A timeline from a moment on. -/
structure Sound (tl : Timeline α) (start : Nat) : Prop where
  uncut : tl.ended ≠ .cut
  start_le : start ≤ tl.stop
  entries : ∀ e ∈ tl.entries, start ≤ e.moment ∧ e.moment ≤ tl.stop ∧ e.answered ≤ tl.stop

/-- One timeline and then another one. -/
def append (tl : Timeline α) (tl' : Timeline β) : Timeline β :=
  ⟨tl.entries ++ tl'.entries, tl'.ended, tl'.stop⟩

end Timeline

namespace Task

variable {α β : Type}

theorem exists_of_not_before {n : Nat} {deadline : Option Nat} (h : ¬ before n deadline = true) :
    ∃ d, deadline = some d ∧ d ≤ n := by
  cases deadline with
  | none => exact absurd rfl h
  | some d =>
    simp only [before, decide_eq_true_eq] at h
    exact ⟨d, rfl, by omega⟩

end Task

namespace Timeline

variable {α β : Type} {tl : Timeline α} {tl' : Timeline β} {start : Nat} {deadline : Option Nat}

theorem events_append (tl : Timeline α) (tl' : Timeline β) (deadline : Option Nat) :
    (tl.append tl').events deadline = tl.events deadline ++ tl'.events deadline :=
  List.filterMap_append

theorem Sound.events_of_before (h : tl.Sound start) (ends : Task.before tl.stop deadline = true) :
    tl.events deadline = tl.entries.map Entry.event := by
  rw [events, ← List.filterMap_eq_map]
  refine List.filterMap_congr fun e he => ?_
  obtain ⟨-, began, answered⟩ := h.entries e he
  rw [Entry.until?, if_pos (Task.before_of_le began ends), if_pos (Task.before_of_le answered ends)]
  rfl

theorem Sound.events_of_late (h : tl.Sound start) (late : ¬ Task.before start deadline = true) :
    tl.events deadline = [] := by
  refine List.filterMap_eq_nil_iff.2 fun e he => ?_
  rw [Entry.until?, if_neg fun began => late (Task.before_of_le (h.entries e he).1 began)]

theorem endsBefore_eq (tl : Timeline α) (finite : tl.ended ≠ .never) (deadline : Option Nat) :
    tl.endsBefore deadline = Task.before tl.stop deadline := by
  cases deadline with
  | none => rfl
  | some d =>
    unfold endsBefore Task.before
    cases h : tl.ended with
    | never => exact absurd h finite
    | value | crash | cut => rfl

theorem not_endsBefore (late : ¬ Task.before tl.stop deadline = true) :
    ¬ tl.endsBefore deadline = true := by
  by_cases h : tl.ended = .never
  · obtain ⟨d, rfl, -⟩ := Task.exists_of_not_before late
    simp [endsBefore, h]
  · rwa [endsBefore_eq tl h]

theorem Sound.append (h : tl.Sound start) (h' : tl'.Sound tl.stop) :
    (tl.append tl').Sound start := by
  have first := h.start_le
  have second := h'.start_le
  refine ⟨h'.uncut, ?_, fun e he => ?_⟩
  · show start ≤ tl'.stop
    omega
  · show start ≤ e.moment ∧ e.moment ≤ tl'.stop ∧ e.answered ≤ tl'.stop
    rcases List.mem_append.1 he with he | he
    · have := h.entries e he
      omega
    · have := h'.entries e he
      omega

/-- A first part that ends in time goes on with the second one. -/
theorem run_append_of_before (_ : Task.before tl.stop deadline = true) (w : World) :
    (tl.append tl').run deadline w =
      tl'.run deadline (w.after (tl.events deadline) tl.stop) := by
  have same : (tl.append tl').endsBefore deadline = tl'.endsBefore deadline := rfl
  rw [run, run, same, events_append, World.after_after, World.after_after]
  rfl

/-- A first part that is interrupted is all there is. -/
theorem run_append_of_late (h' : tl'.Sound tl.stop) (late : ¬ Task.before tl.stop deadline = true)
    (w : World) :
    (tl.append tl').run deadline w =
      (.cut, w.after (tl.events deadline) (deadline.getD tl.stop)) := by
  have never : ¬ (tl.append tl').endsBefore deadline = true :=
    not_endsBefore fun ends => late (Task.before_of_le h'.start_le ends)
  obtain ⟨d, rfl, -⟩ := Task.exists_of_not_before late
  rw [run, if_neg never, events_append, h'.events_of_late late, List.append_nil]
  rfl

/-! ### Output and the answer of a call -/

/-- An event at a moment. -/
def said (e : Event) (moment : Nat) : Timeline Unit := ⟨[⟨moment, e, moment⟩], .value (), moment⟩

/-- What a call does from a moment on that writes output and then waits for its answer. -/
def stream (trace : String) (r : Reply α) : List Piece → Nat → Timeline (Except ClusterError α)
  | [], now => ⟨[], r.outcome.ended, now + r.delay⟩
  | piece :: pieces, now =>
    (said (.output trace piece.bytes) (now + piece.delay)).append
      (stream trace r pieces (now + piece.delay))

theorem sound_said (e : Event) {moment : Nat} (h : start ≤ moment) :
    (said e moment).Sound start := by
  refine ⟨by simp [said], h, fun entry he => ?_⟩
  rw [List.mem_singleton.1 he]
  exact ⟨h, Nat.le_refl moment, Nat.le_refl moment⟩

theorem events_said {e : Event} {moment : Nat} (h : Task.before moment deadline = true) :
    (said e moment).events deadline = [e] :=
  (sound_said e (Nat.le_refl moment)).events_of_before h

theorem sound_stream (trace : String) (r : Reply α) (pieces : List Piece) (now : Nat) :
    (stream trace r pieces now).Sound now := by
  induction pieces generalizing now with
  | nil => exact ⟨r.outcome.ended_ne_cut, Nat.le_add_right now r.delay, by simp [stream]⟩
  | cons piece pieces ih =>
    exact (sound_said _ (Nat.le_add_right now piece.delay)).append (ih (now + piece.delay))

theorem stop_stream (trace : String) (r : Reply α) (pieces : List Piece) (now : Nat) :
    (stream trace r pieces now).stop = now + (r.behind pieces).delay := by
  induction pieces generalizing now with
  | nil =>
    rw [Reply.behind_nil]
    rfl
  | cons piece pieces ih =>
    rw [Reply.delay_behind_cons, ← Nat.add_assoc, ← ih (now + piece.delay)]
    rfl

end Timeline

namespace Task

variable {α β : Type}

/-- Interrupting the task is cutting its timeline. -/
def Timed (t : Task α) : Prop :=
  ∀ now counts, ∃ tl : Timeline α, tl.Sound now ∧
    ∀ deadline past, before now deadline = true →
      t deadline ⟨now, counts, past⟩ = tl.run deadline ⟨now, counts, past⟩

/-! ## Rules for actions -/

theorem timed_pure (a : α) : Timed (pure a) := by
  intro now counts
  refine ⟨⟨[], .value a, now⟩, ⟨by simp, Nat.le_refl now, by simp⟩, fun deadline past h => ?_⟩
  rw [Timeline.run, Timeline.endsBefore_eq _ (by simp), if_pos h]
  rfl

theorem Timed.bind {t : Task α} {f : α → Task β} (ht : t.Timed) (hf : ∀ a, (f a).Timed) :
    (t >>= f).Timed := by
  intro now counts
  obtain ⟨tl, sound, follows⟩ := ht now counts
  -- Only a first part that ends with a value is followed by a second one, from where it ends; how
  -- many calls it makes by then does not depend on the deadline.
  cases hended : tl.ended with
  | cut => exact absurd hended sound.uncut
  | crash text =>
    refine ⟨⟨tl.entries, .crash text, tl.stop⟩,
      ⟨by simp, sound.start_le, sound.entries⟩, fun deadline past h => ?_⟩
    rw [bind_apply, follows deadline past h, Timeline.run, Timeline.run,
      tl.endsBefore_eq (by simp [hended]), Timeline.endsBefore_eq _ (by simp), hended]
    by_cases ends : before tl.stop deadline = true
    · rw [if_pos ends, if_pos ends]
      rfl
    · rw [if_neg ends, if_neg ends]
      rfl
  | never =>
    refine ⟨⟨tl.entries, .never, tl.stop⟩,
      ⟨by simp, sound.start_le, sound.entries⟩, fun deadline past h => ?_⟩
    rw [bind_apply, follows deadline past h, Timeline.run, Timeline.endsBefore.eq_def, hended]
    cases deadline <;> rfl
  | value a =>
    obtain ⟨tl', sound', follows'⟩ :=
      hf a tl.stop ((tl.entries.map Entry.event).foldl Counts.after counts)
    refine ⟨tl.append tl', sound.append sound', fun deadline past h => ?_⟩
    rw [bind_apply, follows deadline past h, Timeline.run, tl.endsBefore_eq (by simp [hended])]
    by_cases ends : before tl.stop deadline = true
    · rw [if_pos ends, hended, Timeline.run_append_of_before ends, sound.events_of_before ends]
      exact follows' deadline _ ends
    · rw [if_neg ends, Timeline.run_append_of_late sound' ends]

/-- A task that waits too long waits until it is interrupted. -/
theorem interrupted_eq {w : World} {deadline : Option Nat} {n : Nat}
    (h : before w.now deadline = true) (late : ¬ before n deadline = true) :
    interrupted deadline w = w.after [] (deadline.getD n) := by
  obtain ⟨d, rfl, -⟩ := exists_of_not_before late
  simp only [before, decide_eq_true_eq] at h
  have : max w.now d = d := by omega
  simp only [interrupted, World.after, Option.getD_some, this]
  rfl

theorem timed_pause (ms : Nat) : Timed (pause ms) := by
  intro now counts
  refine ⟨⟨[], .value (), now + ms⟩, ⟨by simp, Nat.le_add_right now ms, by simp⟩,
    fun deadline past h => ?_⟩
  rw [Timeline.run, Timeline.endsBefore_eq _ (by simp), pause]
  by_cases ends : before (now + ms) deadline = true
  · rw [if_pos ends, if_pos ends]
    rfl
  · rw [if_neg ends, if_neg ends, interrupted_eq h ends]
    rfl

theorem timed_output (trace : String) (bytes : List UInt8) : Timed (output trace bytes) := by
  intro now counts
  refine ⟨⟨[⟨now, .output trace bytes, now⟩], .value (), now⟩, ⟨by simp, Nat.le_refl now, ?_⟩,
    fun deadline past h => ?_⟩
  · intro e he
    rw [List.mem_singleton.1 he]
    exact ⟨Nat.le_refl now, Nat.le_refl now, Nat.le_refl now⟩
  · rw [Timeline.run, Timeline.endsBefore_eq _ (by simp), if_pos h, Timeline.events,
      List.filterMap_cons, Entry.until?, if_pos h, if_pos h]
    rfl

/-! ## Rules for calls -/

theorem settle_eq (r : Reply α) {deadline : Option Nat} {w : World}
    (h : before w.now deadline = true) :
    settle r deadline w =
      Timeline.run ⟨[], r.outcome.ended, w.now + r.delay⟩ deadline w := by
  unfold settle
  rw [bind_apply, pause]
  by_cases ends : before (w.now + r.delay) deadline = true
  · rw [if_pos ends]
    cases ho : r.outcome with
    | hangs =>
      cases deadline with
      | none => rfl
      | some d =>
        exact congrArg (Prod.mk Ended.cut) (interrupted_eq (n := d) ends (by simp [before]))
    | returns | fails | crashes =>
      rw [Timeline.run, Timeline.endsBefore_eq _ (by simp [Outcome.ended]), if_pos ends]
      rfl
  · rw [if_neg ends, interrupted_eq h ends, Timeline.run, if_neg (Timeline.not_endsBefore ends)]
    rfl

/-- A call that returns is waited for as long as it takes. -/
theorem settle_of_answer (r : Reply α) {answer : Except ClusterError α} {w : World}
    (h : r.outcome.answer? = some answer) :
    settle r none w = (.value answer, w.after [] (w.now + r.delay)) := by
  rw [settle_eq r rfl, r.outcome.ended_of_answer h]
  rfl

/-- A stream of output with the answer after it is a timeline. -/
theorem stream_eq (trace : String) (r : Reply α) (pieces : List Piece) {deadline : Option Nat}
    {w : World} (h : before w.now deadline = true) :
    stream trace r pieces deadline w =
      (Timeline.stream trace r pieces w.now).run deadline w := by
  induction pieces generalizing w with
  | nil => exact settle_eq r h
  | cons piece pieces ih =>
    let first := Timeline.said (.output trace piece.bytes) (w.now + piece.delay)
    have follows : (Timeline.stream trace r pieces (w.now + piece.delay)).Sound first.stop :=
      Timeline.sound_stream ..
    rw [stream, bind_apply, pause]
    by_cases inTime : before (w.now + piece.delay) deadline = true
    · rw [if_pos inTime]
      refine (ih (w := { w with now := w.now + piece.delay }.record _) inTime).trans ?_
      rw [Timeline.stream, Timeline.run_append_of_before inTime, Timeline.events_said inTime]
      rfl
    · have nothing : first.events deadline = [] :=
        (Timeline.sound_said _ (Nat.le_refl _)).events_of_late inTime
      rw [if_neg inTime, interrupted_eq h inTime, ← nothing]
      exact (Timeline.run_append_of_late follows inTime w).symm

/-- A call tells what it asks, streams output and waits for its answer. -/
theorem timed_call {t : Task (Except ClusterError α)} (trace : String)
    (h : ∀ now counts, ∃ (r : Reply α) (event : Option (Except ClusterError α) → Event)
      (pieces : List Piece), (∀ answer, (event answer).unanswered = event none) ∧
        ∀ deadline past, t deadline ⟨now, counts, past⟩ = stream trace r pieces deadline
          (World.after ⟨now, counts, past⟩
            [event (answer? (r.behind pieces) deadline now)] now)) :
    t.Timed := by
  intro now counts
  obtain ⟨r, event, pieces, unanswered, ht⟩ := h now counts
  let rest := Timeline.stream trace r pieces now
  let asked : Timeline Unit := ⟨[⟨now, event r.outcome.answer?, rest.stop⟩], .value (), now⟩
  have sound : rest.Sound now := Timeline.sound_stream trace r pieces now
  refine ⟨asked.append rest, ⟨sound.uncut, sound.start_le, fun e he => ?_⟩,
    fun deadline past began => ?_⟩
  · rcases List.mem_cons.1 he with rfl | he
    · exact ⟨Nat.le_refl now, sound.start_le, Nat.le_refl rest.stop⟩
    · exact sound.entries e he
  · have kept : Entry.until? deadline ⟨now, event r.outcome.answer?, rest.stop⟩ =
        some (event (answer? (r.behind pieces) deadline now)) := by
      have stop : rest.stop = now + (r.behind pieces).delay := Timeline.stop_stream ..
      rw [Entry.until?, if_pos began, answer?, ← stop, unanswered]
      split <;> rfl
    have told : asked.events deadline = [event (answer? (r.behind pieces) deadline now)] := by
      rw [Timeline.events, List.filterMap_cons, kept]
      rfl
    have begins : before asked.stop deadline = true := began
    rw [ht, stream_eq trace r pieces (w := World.after _ _ now) began,
      Timeline.run_append_of_before begins, told]
    rfl

end Task

namespace Cluster

variable (c : Cluster)

theorem timed_createPod (spec : JobPod) : (c.createPod spec).Timed :=
  Task.timed_call "" fun _ n =>
    ⟨c.create n.create spec, .create spec, [], fun _ => rfl, fun _ _ => by
      rw [Reply.behind_nil]
      rfl⟩

theorem timed_podState (pod : PodRef) : (c.podState pod).Timed :=
  Task.timed_call "" fun _ n =>
    ⟨c.state n.state pod, .state pod, [], fun _ => rfl, fun _ _ => by
      rw [Reply.behind_nil]
      rfl⟩

theorem timed_execIn (pod : PodRef) (request : ExecRequest) (trace : String) :
    (c.execIn pod request trace).Timed :=
  Task.timed_call trace fun _ n =>
    ⟨(c.exec n.exec pod request).reply, .exec pod request, (c.exec n.exec pod request).output,
      fun _ => rfl, fun _ _ => rfl⟩

/-! ## Calls that return -/

section Answers

variable {c} {w : World} {pod : PodRef}

theorem createPod_of_answer {spec : JobPod} {answer : Except ClusterError PodRef}
    (h : (c.create w.counts.create spec).outcome.answer? = some answer) :
    c.createPod spec none w =
      (.value answer, w.after [.create spec (some answer)]
        (w.now + (c.create w.counts.create spec).delay)) := by
  have recorded : Task.answer? (c.create w.counts.create spec) none w.now = some answer := h
  unfold createPod
  rw [Task.settle_of_answer _ h, recorded]
  rfl

theorem podState_of_answer {answer : Except ClusterError PodState}
    (h : (c.state w.counts.state pod).outcome.answer? = some answer) :
    c.podState pod none w =
      (.value answer, w.after [.state pod (some answer)]
        (w.now + (c.state w.counts.state pod).delay)) := by
  have recorded : Task.answer? (c.state w.counts.state pod) none w.now = some answer := h
  unfold podState
  rw [Task.settle_of_answer _ h, recorded]
  rfl

theorem deletePod_of_answer {answer : Except ClusterError Unit}
    (h : (c.delete w.counts.delete pod).outcome.answer? = some answer) :
    c.deletePod pod none w =
      (.value answer, w.after [.delete pod (some answer)]
        (w.now + (c.delete w.counts.delete pod).delay)) := by
  have recorded : Task.answer? (c.delete w.counts.delete pod) none w.now = some answer := h
  unfold deletePod
  rw [Task.settle_of_answer _ h, recorded]
  rfl

end Answers

/-! ## Steps -/

theorem timed_attempt (pod : PodRef) (trace : String)
    {next : Option ClusterError → Task (Except Error Phase)} (hnext : ∀ e, (next e).Timed) :
    (c.attempt pod trace next).Timed := by
  unfold attempt
  refine (c.timed_podState pod).bind fun answer => ?_
  cases look pod answer with
  | decided result => exact Task.timed_pure result
  | pending line lastError =>
    exact (Task.timed_output trace line).bind fun _ => hnext lastError

theorem timed_poll (interval : Duration) (pod : PodRef) (trace : String) (n : Nat) :
    (c.poll interval pod trace n).Timed := by
  induction n with
  | zero =>
    unfold poll
    exact c.timed_attempt pod trace fun lastError => Task.timed_pure _
  | succ n ih =>
    unfold poll
    exact c.timed_attempt pod trace fun _ => (Task.timed_pause _).bind fun _ => ih

theorem timed_awaitRunning (settings : PollSettings) (pod : PodRef) (trace : String) :
    (c.awaitRunning settings pod trace).Timed :=
  c.timed_poll settings.interval pod trace _

theorem timed_runScript (settings : PollSettings) (pod : PodRef) (request : ExecRequest)
    (trace : String) : (c.runScript settings pod request trace).Timed := by
  unfold runScript
  refine (c.timed_awaitRunning settings pod trace).bind fun result => ?_
  cases result with
  | error e => exact Task.timed_pure _
  | ok phase =>
    by_cases hp : phase = .running
    · subst hp
      refine (c.timed_execIn pod request trace).bind fun answer => ?_
      cases answer <;> exact Task.timed_pure _
    · simp only [if_pos hp]
      exact Task.timed_pure _

end Cluster

end PodRunner
