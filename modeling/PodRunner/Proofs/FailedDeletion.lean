import PodRunner.Proofs.CallOrder
import PodRunner.Proofs.Timeline

/-!
# Deletions that fail

Take two clusters that answer alike, except that deletions may succeed with one of them and fail
with the other (`Cluster.DiffersInDeletion`).  Operations come to the same with both: a deletion
that fails changes the answer of its cleanup and adds one line to the output of the job, and nothing
else, then or later (`Executor.failed_deletion_unnoticed`).
-/

namespace PodRunner

/-! ## Clusters that differ in deletions -/

/-- The clusters answer alike, but a deletion may succeed with one and fail with the other.  All
deletions return. -/
structure Cluster.DiffersInDeletion (c c' : Cluster) : Prop where
  create : c'.create = c.create
  state : c'.state = c.state
  exec : c'.exec = c.exec
  delay : ∀ n pod, (c'.delete n pod).delay = (c.delete n pod).delay
  returns : ∀ n pod, ∃ answer, (c.delete n pod).outcome.answer? = some answer
  returns' : ∀ n pod, ∃ answer, (c'.delete n pod).outcome.answer? = some answer

namespace Cluster

variable {c c' : Cluster}

theorem DiffersInDeletion.createPod_eq (h : DiffersInDeletion c c') (spec : JobPod) :
    c'.createPod spec = c.createPod spec := by
  unfold createPod
  rw [h.create]

theorem DiffersInDeletion.attempt_eq (h : DiffersInDeletion c c') (pod : PodRef) (trace : String)
    (next : Option ClusterError → Task (Except Error Phase)) :
    c'.attempt pod trace next = c.attempt pod trace next := by
  unfold attempt podState
  rw [h.state]

theorem DiffersInDeletion.poll_eq (h : DiffersInDeletion c c') (interval : Duration) (pod : PodRef)
    (trace : String) (n : Nat) : c'.poll interval pod trace n = c.poll interval pod trace n := by
  induction n with
  | zero =>
    unfold poll
    exact h.attempt_eq pod trace _
  | succ n ih =>
    unfold poll
    rw [h.attempt_eq, ih]

theorem DiffersInDeletion.runScript_eq (h : DiffersInDeletion c c') (settings : PollSettings)
    (pod : PodRef) (request : ExecRequest) (trace : String) :
    c'.runScript settings pod request trace = c.runScript settings pod request trace := by
  have asked : c'.execIn pod request trace = c.execIn pod request trace := by
    unfold execIn
    rw [h.exec]
  unfold runScript awaitRunning
  rw [h.poll_eq, asked]

end Cluster

/-! ## Worlds that differ in events -/

/-- The worlds differ at most in what has happened in them. -/
structure World.Level (w w' : World) : Prop where
  now : w'.now = w.now
  counts : w'.counts = w.counts

namespace World

variable {w w' : World}

theorem Level.refl (w : World) : w.Level w := ⟨rfl, rfl⟩

theorem Level.after (h : w.Level w') (es : List Event) (n : Nat) :
    (w.after es n).Level (w'.after es n) :=
  ⟨rfl, congrArg (es.foldl Counts.after) h.counts⟩

theorem Level.after_nil (h : w.Level w') : w'.after [] w.now = w' := by
  rw [← h.now, World.after_nil]

end World

/-- What a task does depends on the time and the number of calls so far only. -/
theorem Task.Timed.until_of_level {α : Type} {t : Task α} (ht : t.Timed) (deadline : Option Nat)
    (w : World) :
    ∃ r es n, ∀ w', w.Level w' → t.until deadline w' = (r, w'.after es n) := by
  obtain ⟨tl, -, follows⟩ := ht w.now w.counts
  by_cases began : before w.now deadline = true
  · have followed : ∀ w' : World, w.Level w' → t.until deadline w' = tl.run deadline w' := by
      intro w' level
      rw [Task.until, level.now, if_pos began]
      have := follows deadline w'.past began
      rwa [← level.now, ← level.counts] at this
    by_cases ends : tl.endsBefore deadline = true
    · refine ⟨tl.ended, tl.events deadline, tl.stop, fun w' level => ?_⟩
      rw [followed w' level, Timeline.run, if_pos ends]
    · refine ⟨.cut, tl.events deadline, deadline.getD tl.stop, fun w' level => ?_⟩
      rw [followed w' level, Timeline.run, if_neg ends]
  · refine ⟨.cut, [], w.now, fun w' level => ?_⟩
    rw [Task.until, level.now, if_neg began, level.after_nil]

namespace Executor

variable {connect : ClusterSettings → Except Error Unit} {c c' : Cluster}

/-! ## One operation -/

theorem prepare_of_level (connect : ClusterSettings → Except Error Unit) (x : Executor)
    (runner : Runner) (job : Job) (w : World) :
    ∃ r y es n, ∀ w', w.Level w' → x.prepare connect runner job w' = (r, y, w'.after es n) := by
  unfold prepare
  cases Prepared.resolve runner job with
  | error e => exact ⟨.error e, x, [], w.now, fun w' level => by rw [level.after_nil]⟩
  | ok p =>
    cases (if x.connected then .ok () else connect runner.cluster : Except Error Unit) with
    | error e => exact ⟨.error e, x, [], w.now, fun w' level => by rw [level.after_nil]⟩
    | ok =>
      let y : Executor :=
        { x with connected := true, prepared := some p, polling := some runner.cluster.poll }
      refine ⟨.ok (), y, [.output job.trace (Trace.line (greeting p.image))], w.now,
        fun w' level => ?_⟩
      rw [← level.now]
      rfl

theorem run_of_level_of_held {x : Executor} {p : Prepared} {polling : PollSettings} {pod : PodRef}
    (prepared : x.prepared = some p) (waits : x.polling = some polling) (held : x.pod = some pod)
    (c : Cluster) (s : Step) (abort : Option Nat) (w : World) :
    ∃ r es n, ∀ w', w.Level w' → x.run c s abort w' = (r, x, w'.after es n) := by
  obtain ⟨r, es, n, same⟩ :=
    (c.timed_runScript polling pod (request p s) p.job.trace).until_of_level abort w
  refine ⟨joined r, es, n, fun w' level => ?_⟩
  rw [run_of_held prepared waits held, stepTask, same w' level]

theorem run_of_level (c : Cluster) (x : Executor) (s : Step) (abort : Option Nat) (w : World) :
    ∃ r y es n, ∀ w', w.Level w' → x.run c s abort w' = (r, y, w'.after es n) := by
  by_cases lacking : x.prepared = none ∨ x.polling = none
  · refine ⟨.value (.error .notPrepared), x, [], w.now, fun w' level => ?_⟩
    rw [run_of_unprepared lacking, level.after_nil]
  · obtain ⟨p, prepared⟩ := Option.ne_none_iff_exists'.1 fun h => lacking (.inl h)
    obtain ⟨polling, waits⟩ := Option.ne_none_iff_exists'.1 fun h => lacking (.inr h)
    cases held : x.pod with
    | some pod =>
      obtain ⟨r, es, n, same⟩ := run_of_level_of_held prepared waits held c s abort w
      exact ⟨r, x, es, n, same⟩
    | none =>
      obtain ⟨r, es, n, made⟩ := (c.timed_createPod p.podSpec).until_of_level none w
      rcases r.ok_or_ne with ⟨pod, rfl⟩ | failed
      · let y := { x with pod := some pod }
        obtain ⟨r, fs, m, same⟩ :=
          run_of_level_of_held (x := y) prepared waits rfl c s abort (w.after es n)
        refine ⟨r, y, es ++ fs, m, fun w' level => ?_⟩
        rw [run_of_created prepared waits held (made w' level), same _ (level.after es n),
          World.after_after]
      · refine ⟨creationResult r, x, es, n, fun w' level => ?_⟩
        rw [run_of_uncreated prepared waits held (made w' level) failed]

theorem run_eq_of_differsInDeletion (h : c.DiffersInDeletion c') (x : Executor) (s : Step)
    (abort : Option Nat) (w : World) : x.run c' s abort w = x.run c s abort w := by
  have same : x.ensurePod c' w = x.ensurePod c w := by
    unfold ensurePod
    simp only [h.createPod_eq]
  unfold run
  simp only [same, h.runScript_eq]

/-- Operations other than cleanups come to the same. -/
theorem perform_of_level (h : c.DiffersInDeletion c')
    (connect : ClusterSettings → Except Error Unit) (x : Executor) {op : Operation}
    (other : op ≠ .cleanup) {w w' : World} (level : w.Level w') :
    ∃ r y es n, x.perform connect c op w = (r, y, w.after es n) ∧
      x.perform connect c' op w' = (r, y, w'.after es n) := by
  cases op with
  | cleanup => exact absurd rfl other
  | prepare runner job =>
    obtain ⟨r, y, es, n, same⟩ := prepare_of_level connect x runner job w
    refine ⟨.prepared r, y, es, n, ?_, ?_⟩
    · rw [perform, same w (.refl w)]
    · rw [perform, same w' level]
  | run step abortAfter =>
    obtain ⟨r, y, es, n, same⟩ := run_of_level c x step (abortAfter.map (w.now + ·)) w
    refine ⟨.ran r, y, es, n, ?_, ?_⟩
    · rw [perform, same w (.refl w)]
    · rw [perform, run_eq_of_differsInDeletion h, level.now, same w' level]

/-- What a cleanup adds when the deletion has this answer. -/
def cleanupEvents (prepared : Option Prepared) (pod : PodRef) (answer : Except ClusterError Unit) :
    List Event :=
  .delete pod (some answer) :: cleanupNotes prepared (some answer)

theorem counts_cleanupEvents (prepared : Option Prepared) (pod : PodRef)
    (answer : Except ClusterError Unit) (n : Counts) :
    (cleanupEvents prepared pod answer).foldl Counts.after n = n.after (.delete pod none) := by
  cases answer with
  | ok => rfl
  | error e => cases prepared <;> rfl

theorem calls_cleanupEvents (prepared : Option Prepared) (pod : PodRef)
    (answer : Except ClusterError Unit) :
    calls (cleanupEvents prepared pod answer) = [.delete pod (some answer)] :=
  congrArg (List.cons _) (calls_cleanupNotes prepared (some answer))

theorem cleanup_of_answer {x : Executor} {pod : PodRef} {polling : PollSettings} {w : World}
    {answer : Except ClusterError Unit} (held : x.pod = some pod) (waits : x.polling = some polling)
    (h : (c.delete w.counts.delete pod).outcome.answer? = some answer) :
    x.cleanup c w =
      (cleanupResult pod (.value answer), { x with pod := none },
        w.after (cleanupEvents x.prepared pod answer)
          (w.now + (c.delete w.counts.delete pod).delay)) := by
  rw [cleanup_of_held held waits, Cluster.deletePod_of_answer h, cleanupEvents]
  cases answer with
  | ok => rfl
  | error e => cases x.prepared <;> rfl

/-! ## One moment -/

/-- The moment of a cleanup that found no pod. -/
structure Moment.Idle (m : Moment) : Prop where
  held : m.before.pod = none
  result : m.result = .cleaned (.value .nothingToDelete)
  events : m.events = []

/-- What a cleanup tells of a deletion with this answer. -/
def told (pod : PodRef) : Except ClusterError Unit → Cleanup
  | .ok () => .deleted pod
  | .error e => .failed pod e

/-- What a cleanup writes to the output of the job after a deletion with this answer: one line for
a failure. -/
def written (job : Job) : Except ClusterError Unit → List Event
  | .ok () => []
  | .error e => [.output job.trace (Trace.error ("Error cleaning up pod: " ++ e.message))]

/-- The moment of a cleanup that handed the pod to a deletion with this answer: it tells the answer,
writes it to the output of the job, and does nothing else. -/
structure Moment.Released (c : Cluster) (m : Moment) (pod : PodRef) (job : Job)
    (answer : Except ClusterError Unit) : Prop where
  held : m.before.pod = some pod
  answered : (c.delete m.began.counts.delete pod).outcome.answer? = some answer
  result : m.result = .cleaned (.value (told pod answer))
  events : m.events = .delete pod (some answer) :: written job answer

/-- One operation came to the same with both clusters, at the same time, but for the answer of a
deletion. -/
structure Moment.Agrees (c c' : Cluster) (last : Option (Runner × Job)) (m m' : Moment) :
    Prop where
  op : m'.op = m.op
  before : m'.before = m.before
  after : m'.after = m.after
  began : m'.began.now = m.began.now
  ended : m'.ended.now = m.ended.now
  calls : (calls m'.events).map Event.unanswered = (calls m.events).map Event.unanswered
  same : m.op ≠ .cleanup → m'.result = m.result ∧ m'.events = m.events
  cleanup : m.op = .cleanup → m.Idle ∧ m'.Idle ∨
    ∃ pod runner job answer answer', last = some (runner, job) ∧
      m.Released c pod job answer ∧ m'.Released c' pod job answer'

theorem moment_of_perform {x y : Executor} {op : Operation} {w : World} {r : Result}
    {es : List Event} {n : Nat} (h : x.perform connect c op w = (r, y, w.after es n)) :
    moment connect c x op w = ⟨x, w, op, r, y, w.after es n⟩ ∧
      (moment connect c x op w).events = es := by
  have same : moment connect c x op w = ⟨x, w, op, r, y, w.after es n⟩ := by rw [moment, h]
  refine ⟨same, ?_⟩
  rw [same, Moment.events, World.events_after, List.drop_left]

theorem agrees_of_perform {x y : Executor} {op : Operation} {w w' : World} {r : Result}
    {es : List Event} {n : Nat} (last : Option (Runner × Job)) (level : w.Level w')
    (h : x.perform connect c op w = (r, y, w.after es n))
    (h' : x.perform connect c' op w' = (r, y, w'.after es n))
    (idle : op = .cleanup → x.pod = none ∧ r = .cleaned (.value .nothingToDelete) ∧ es = []) :
    (moment connect c x op w).Agrees c c' last (moment connect c' x op w') ∧
      (moment connect c x op w).ended.Level (moment connect c' x op w').ended := by
  obtain ⟨m, events⟩ := moment_of_perform h
  obtain ⟨m', events'⟩ := moment_of_perform h'
  rw [m] at events ⊢
  rw [m'] at events' ⊢
  refine ⟨⟨rfl, rfl, rfl, level.now, rfl, by rw [events, events'],
    fun _ => ⟨rfl, events'.trans events.symm⟩, fun hop => .inl ?_⟩, level.after es n⟩
  obtain ⟨free, result, nothing⟩ := idle hop
  exact ⟨⟨free, result, events.trans nothing⟩, ⟨free, result, events'.trans nothing⟩⟩

theorem released_of_cleanup (connect : ClusterSettings → Except Error Unit) {x : Executor}
    {p : Prepared} {polling : PollSettings} {pod : PodRef} {w : World}
    {answer : Except ClusterError Unit} (prepared : x.prepared = some p)
    (waits : x.polling = some polling) (held : x.pod = some pod)
    (answered : (c.delete w.counts.delete pod).outcome.answer? = some answer) :
    (moment connect c x .cleanup w).Released c pod p.job answer ∧
      (moment connect c x .cleanup w).after = { x with pod := none } ∧
      (moment connect c x .cleanup w).ended =
        w.after (cleanupEvents (some p) pod answer)
          (w.now + (c.delete w.counts.delete pod).delay) ∧
      (moment connect c x .cleanup w).events = cleanupEvents (some p) pod answer := by
  have run : x.perform connect c .cleanup w =
      (.cleaned (cleanupResult pod (.value answer)), { x with pod := none },
        w.after (cleanupEvents (some p) pod answer)
          (w.now + (c.delete w.counts.delete pod).delay)) := by
    rw [perform, cleanup_of_answer held waits answered, prepared]
  obtain ⟨m, events⟩ := moment_of_perform run
  refine ⟨⟨held, answered, ?_, ?_⟩, by rw [m], by rw [m], events⟩
  · rw [m]
    cases answer <;> rfl
  · rw [events]
    cases answer <;> rfl

theorem agrees_of_cleanup (h : c.DiffersInDeletion c')
    (connect : ClusterSettings → Except Error Unit) {x : Executor} {p : Prepared}
    {polling : PollSettings} {pod : PodRef} (prepared : x.prepared = some p)
    (waits : x.polling = some polling) (held : x.pod = some pod) {w w' : World}
    (level : w.Level w') :
    (moment connect c x .cleanup w).Agrees c c' (some (p.runner, p.job))
        (moment connect c' x .cleanup w') ∧
      (moment connect c x .cleanup w).ended.Level (moment connect c' x .cleanup w').ended := by
  obtain ⟨answer, answered⟩ := h.returns w.counts.delete pod
  obtain ⟨answer', answered'⟩ := h.returns' w'.counts.delete pod
  obtain ⟨released, after, ended, events⟩ :=
    released_of_cleanup connect prepared waits held answered
  obtain ⟨released', after', ended', events'⟩ :=
    released_of_cleanup connect prepared waits held answered'
  have same : (moment connect c x .cleanup w).ended.Level
      (moment connect c' x .cleanup w').ended := by
    rw [ended, ended']
    refine ⟨?_, ?_⟩
    · rw [World.now_after, World.now_after, h.delay, level.now, level.counts]
    · show (cleanupEvents (some p) pod answer').foldl Counts.after w'.counts =
        (cleanupEvents (some p) pod answer).foldl Counts.after w.counts
      rw [counts_cleanupEvents, counts_cleanupEvents, level.counts]
  refine ⟨⟨rfl, rfl, after'.trans after.symm, level.now, same.now, ?_, fun hop => absurd rfl hop,
    fun _ => .inr ⟨pod, p.runner, p.job, answer, answer', rfl, released, released'⟩⟩, same⟩
  rw [events, events', calls_cleanupEvents, calls_cleanupEvents]
  rfl

/-! ## Every history -/

theorem agrees_moment (h : c.DiffersInDeletion c') (connect : ClusterSettings → Except Error Unit)
    {past : List Event} {last : Option (Runner × Job)} {x : Executor} (known : Tracked past last x)
    (op : Operation) {w w' : World} (level : w.Level w') :
    (moment connect c x op w).Agrees c c' last (moment connect c' x op w') ∧
      (moment connect c x op w).ended.Level (moment connect c' x op w').ended := by
  by_cases hop : op = .cleanup
  · subst hop
    cases held : x.pod with
    | none =>
      have run : x.perform connect c .cleanup w =
          (.cleaned (.value .nothingToDelete), x, w.after [] w.now) := by
        rw [perform, cleanup_of_free held, World.after_nil]
      have run' : x.perform connect c' .cleanup w' =
          (.cleaned (.value .nothingToDelete), x, w'.after [] w.now) := by
        rw [perform, cleanup_of_free held, level.after_nil]
      exact agrees_of_perform last level run run' fun _ => ⟨held, rfl, rfl⟩
    | some pod =>
      obtain ⟨p, prepared⟩ := known.coherent.exists_prepared held
      obtain ⟨polling, waits⟩ := known.coherent.exists_polling prepared
      rw [known.last_eq prepared]
      exact agrees_of_cleanup h connect prepared waits held level
  · obtain ⟨r, y, es, n, run, run'⟩ := perform_of_level h connect x hop level
    exact agrees_of_perform last level run run' fun cleanup => absurd cleanup hop

theorem agrees_history (h : c.DiffersInDeletion c') {ops : List Operation}
    (past : List Moment) {pre post : List Moment} {m : Moment} {x : Executor} {w w' : World}
    (known : Tracked (calls (log past)) (lastAccepted past) x) (level : w.Level w')
    (hm : history connect c x ops w = pre ++ m :: post) :
    ∃ pre' m' post', history connect c' x ops w' = pre' ++ m' :: post' ∧
      pre'.length = pre.length ∧ m.Agrees c c' (lastAccepted (past ++ pre)) m' := by
  -- On the moments before: the executors stay the same, and the worlds level.
  induction pre generalizing ops past x w w' with
  | nil =>
    cases ops with
    | nil => cases hm
    | cons op ops =>
      obtain ⟨rfl, -⟩ := List.cons.inj hm
      rw [List.append_nil]
      exact ⟨[], _, _, rfl, rfl, (agrees_moment h connect known op level).1⟩
  | cons head pre ih =>
    cases ops with
    | nil => cases hm
    | cons op ops =>
      obtain ⟨rfl, rest⟩ := List.cons.inj hm
      obtain ⟨agrees, later⟩ := agrees_moment h connect known op level
      have known' := (turn_moment connect c x op w).tracked known
      obtain ⟨pre', m', post', hm', length, agrees'⟩ := ih _ known' later rest
      rw [List.append_assoc] at agrees'
      refine ⟨moment connect c' x op w' :: pre', m', post', ?_, congrArg (· + 1) length, agrees'⟩
      show moment connect c' x op w' :: history connect c' (moment connect c' x op w').after ops
        (moment connect c' x op w').ended = _
      rw [agrees.after, hm', List.cons_append]

/-- Whether deletions succeed or fail makes no difference to anything but the cleanups that they
belong to: whatever is done at whatever moment comes to the same, at the same time, with the same
calls and the same pod held.  A cleanup releases the same pod, answers as the deletion does, and
writes one line to the output of the job that was settled last if the deletion fails. -/
theorem failed_deletion_unnoticed (h : c.DiffersInDeletion c') {connected : Bool}
    {ops : List Operation} {w : World} {pre post : List Moment} {m : Moment}
    (hm : history connect c (fresh connected) ops w = pre ++ m :: post) :
    ∃ pre' m' post', history connect c' (fresh connected) ops w = pre' ++ m' :: post' ∧
      pre'.length = pre.length ∧ m.Agrees c c' (lastAccepted pre) m' :=
  agrees_history h [] (tracked_fresh connected) (.refl w) hm

end Executor

/-- The cluster to try out, with deletions that succeed. -/
def Sample.deleting : Cluster := { cluster with delete := fun _ _ => ⟨10, .returns ()⟩ }

namespace Executor

open Sample in
/-- A cleanup whose deletion fails, next to the same cleanup with a cluster whose deletions succeed.
The next run makes a pod all the same. -/
theorem sample_failed_deletion :
    let ops : List Operation :=
      [.prepare runner job, .run step none, .run step none, .cleanup, .run step none]
    cluster.DiffersInDeletion deleting ∧ ∃ pre m post pre' m' post',
      trial ops = pre ++ m :: post ∧
      history (fun _ => .ok ()) deleting (fresh true) ops {} = pre' ++ m' :: post' ∧
      pre'.length = pre.length ∧ m.Agrees cluster deleting (some (runner, job)) m' ∧
      m.result = .cleaned (.value (.failed ⟨"1", "ci"⟩ (.api 500 "busy"))) ∧
      m'.result = .cleaned (.value (.deleted ⟨"1", "ci"⟩)) ∧
      post.map (·.after.pod) = [some ⟨"2", "ci"⟩] := by
  intro ops
  have differs : cluster.DiffersInDeletion deleting :=
    ⟨rfl, rfl, rfl, fun _ _ => rfl, fun n _ => by cases n <;> exact ⟨_, rfl⟩, fun _ _ => ⟨_, rfl⟩⟩
  have h : trial ops = [_, _, _] ++ _ :: [_] := rfl
  have h' : history (fun _ => .ok ()) deleting (fresh true) ops {} = [_, _, _] ++ _ :: [_] := rfl
  obtain ⟨pre', m', post', hm', length, agrees⟩ := failed_deletion_unnoticed differs h
  obtain ⟨-, same⟩ := List.append_inj (h'.symm.trans hm') length.symm
  obtain ⟨rfl, -⟩ := List.cons.inj same
  exact ⟨differs, _, _, _, _, _, _, h, hm', length, agrees, rfl, rfl, rfl⟩

end Executor

end PodRunner
