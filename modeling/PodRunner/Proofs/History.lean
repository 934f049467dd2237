import Mathlib.Data.List.Basic
import PodRunner.Proofs.Operations

/-!
# Histories of an executor

A history is what a sequence of operations comes to, moment by moment (`Executor.history`): the
executor before and after each operation, its result and its events.  `Executor.Turn` says all that
one operation can do, and `Executor.turn_moment` that this is so; `Executor.Flow` is what it can do
with the pod.  What every turn preserves holds along every history (`Executor.history_induction`).
-/

namespace PodRunner

/-! ## Pods in the log -/

/-- The pods that were created, in order, each with the description that it was created from. -/
def creations (es : List Event) : List (JobPod × PodRef) := es.filterMap Event.creation?

/-- The pods that were created, in order. -/
def created (es : List Event) : List PodRef := (creations es).map Prod.snd

/-- The pods that were handed to deletion, in order. -/
def deleted (es : List Event) : List PodRef := es.filterMap Event.deletion?

@[simp] theorem creations_append (es fs : List Event) :
    creations (es ++ fs) = creations es ++ creations fs :=
  List.filterMap_append

@[simp] theorem created_append (es fs : List Event) :
    created (es ++ fs) = created es ++ created fs := by
  simp [created]

@[simp] theorem deleted_append (es fs : List Event) :
    deleted (es ++ fs) = deleted es ++ deleted fs :=
  List.filterMap_append

theorem creations_calls (es : List Event) : creations (calls es) = creations es := by
  rw [creations, calls, List.filterMap_filter]
  refine List.filterMap_congr fun e _ => ?_
  cases e <;> rfl

theorem created_calls (es : List Event) : created (calls es) = created es := by
  rw [created, creations_calls, created]

theorem deleted_calls (es : List Event) : deleted (calls es) = deleted es := by
  rw [deleted, calls, List.filterMap_filter]
  refine List.filterMap_congr fun e _ => ?_
  cases e <;> rfl

/-- Neither creates a pod nor deletes one. -/
def Quiet (es : List Event) : Prop := ∀ e ∈ es, e.creation? = none ∧ e.deletion? = none

theorem quiet_nil : Quiet [] := fun _ he => absurd he List.not_mem_nil

theorem quiet_create {spec : JobPod} {answer : Option (Except ClusterError PodRef)}
    (failed : ∀ pod, answer ≠ some (.ok pod)) : Quiet [.create spec answer] := by
  intro e he
  rw [List.mem_singleton.1 he]
  match answer with
  | none | some (.error _) => exact ⟨rfl, rfl⟩
  | some (.ok pod) => exact absurd rfl (failed pod)

theorem Quiet.creations_eq_nil {es : List Event} (h : Quiet es) : creations es = [] :=
  List.filterMap_eq_nil_iff.2 fun e he => (h e he).1

theorem Quiet.created_eq_nil {es : List Event} (h : Quiet es) : created es = [] := by
  rw [created, h.creations_eq_nil]
  rfl

theorem Quiet.deleted_eq_nil {es : List Event} (h : Quiet es) : deleted es = [] :=
  List.filterMap_eq_nil_iff.2 fun e he => (h e he).2

theorem Quiet.append {es fs : List Event} (h : Quiet es) (h' : Quiet fs) : Quiet (es ++ fs) := by
  intro e he
  rcases List.mem_append.1 he with he | he
  · exact h e he
  · exact h' e he

theorem quiet_calls {es : List Event} : Quiet (calls es) ↔ Quiet es := by
  constructor
  · intro h e he
    cases e with
    | output => exact ⟨rfl, rfl⟩
    | _ => exact h _ (List.mem_filter.2 ⟨he, rfl⟩)
  · intro h e he
    exact h e (List.mem_filter.1 he).1

namespace Cluster

theorem Looks.quiet {pod : PodRef} {es : List Event} (h : Looks pod es) : Quiet es := by
  intro e he
  obtain ⟨answer, rfl⟩ := h e he
  exact ⟨rfl, rfl⟩

/-- A step neither creates a pod nor deletes one. -/
theorem StepCalls.quiet {pod : PodRef} {request : ExecRequest} {es : List Event}
    (h : StepCalls pod request es) : Quiet es := by
  rcases h with h | ⟨before, s, answer, hl, -, rfl⟩
  · exact h.quiet
  · refine hl.quiet.append fun e he => ?_
    simp only [List.mem_cons, List.not_mem_nil, or_false] at he
    rcases he with rfl | rfl <;> exact ⟨rfl, rfl⟩

end Cluster

namespace Executor

/-! ## One operation -/

/-- All that one operation can do: from the executor before it to its result, its events and the
executor after it. -/
inductive Turn (x : Executor) : Operation → Result → List Event → Executor → Prop where
  | refused {runner job e} : Turn x (.prepare runner job) (.prepared (.error e)) [] x
  | accepted {runner job p} (settled : Prepared.resolve runner job = .ok p) :
      Turn x (.prepare runner job) (.prepared (.ok ()))
        [.output job.trace (Trace.line (greeting p.image))]
        { x with connected := true, prepared := some p, polling := some runner.cluster.poll }
  | unprepared {step abort} (lacking : x.prepared = none ∨ x.polling = none) :
      Turn x (.run step abort) (.ran (.value (.error .notPrepared))) [] x
  | uncreated {step abort p polling answer r} (prepared : x.prepared = some p)
      (waits : x.polling = some polling) (free : x.pod = none)
      (failed : ∀ pod, answer ≠ some (.ok pod)) :
      Turn x (.run step abort) (.ran r) [.create p.podSpec answer] x
  | made {step abort p polling pod r es} (prepared : x.prepared = some p)
      (waits : x.polling = some polling) (free : x.pod = none)
      (stepped : Cluster.StepCalls pod (request p step) (calls es)) :
      Turn x (.run step abort) (.ran r) (.create p.podSpec (some (.ok pod)) :: es)
        { x with pod := some pod }
  | reused {step abort p polling pod r es} (prepared : x.prepared = some p)
      (waits : x.polling = some polling) (held : x.pod = some pod)
      (stepped : Cluster.StepCalls pod (request p step) (calls es)) :
      Turn x (.run step abort) (.ran r) es x
  | idle (free : x.pod = none) : Turn x .cleanup (.cleaned (.value .nothingToDelete)) [] x
  | dropped {pod} (held : x.pod = some pod) (lacking : x.polling = none) :
      Turn x .cleanup (.cleaned (.value .nothingToDelete)) [] { x with pod := none }
  | released {pod polling answer r es} (held : x.pod = some pod)
      (waits : x.polling = some polling) (asked : calls es = [.delete pod answer]) :
      Turn x .cleanup (.cleaned r) es { x with pod := none }

variable (connect : ClusterSettings → Except Error Unit) (c : Cluster)

theorem turn_prepare (x : Executor) (runner : Runner) (job : Job) (w : World) :
    ∃ es, (x.prepare connect runner job w).2.2.events = w.events ++ es ∧
      Turn x (.prepare runner job) (.prepared (x.prepare connect runner job w).1) es
        (x.prepare connect runner job w).2.1 := by
  unfold prepare
  cases settled : Prepared.resolve runner job with
  | error e => exact ⟨[], (List.append_nil _).symm, .refused⟩
  | ok p =>
    cases (if x.connected then .ok () else connect runner.cluster : Except Error Unit) with
    | error e => exact ⟨[], (List.append_nil _).symm, .refused⟩
    | ok => exact ⟨_, w.events_record _, .accepted settled⟩

/-- What a step records, begun in time or not. -/
theorem records_stepTask (p : Prepared) (polling : PollSettings) (pod : PodRef) (s : Step) :
    Task.Records (Task.until (stepTask c p polling pod s)) fun _ es =>
      Cluster.StepCalls pod (request p s) (calls es) :=
  (c.records_runScript polling pod _ _).until (.inl (by simp [Cluster.Looks]))

theorem turn_run_of_held {x : Executor} {p : Prepared} {polling : PollSettings} {pod : PodRef}
    (prepared : x.prepared = some p) (waits : x.polling = some polling) (held : x.pod = some pod)
    (s : Step) (abort : Option Nat) (w : World) :
    ∃ r es, x.run c s abort w = (r, x, (x.run c s abort w).2.2) ∧
      (x.run c s abort w).2.2.events = w.events ++ es ∧
      Cluster.StepCalls pod (request p s) (calls es) := by
  rw [run_of_held prepared waits held]
  obtain ⟨es, he, hs⟩ := records_stepTask c p polling pod s abort w
  exact ⟨_, es, rfl, he, hs⟩

theorem turn_run (x : Executor) (s : Step) (abort : Option Nat) (w : World)
    (abortAfter : Option Nat) :
    ∃ es, (x.run c s abort w).2.2.events = w.events ++ es ∧
      Turn x (.run s abortAfter) (.ran (x.run c s abort w).1) es (x.run c s abort w).2.1 := by
  cases prepared : x.prepared with
  | none =>
    rw [run_of_unprepared (.inl prepared)]
    exact ⟨[], (List.append_nil _).symm, .unprepared (.inl prepared)⟩
  | some p =>
    cases waits : x.polling with
    | none =>
      rw [run_of_unprepared (.inr waits)]
      exact ⟨[], (List.append_nil _).symm, .unprepared (.inr waits)⟩
    | some polling =>
      cases held : x.pod with
      | some pod =>
        obtain ⟨r, es, hr, he, hs⟩ := turn_run_of_held c prepared waits held s abort w
        rw [hr]
        exact ⟨es, he, .reused prepared waits held hs⟩
      | none =>
        obtain ⟨es, he, hv⟩ := c.records_createPod p.podSpec none w
        rcases made : c.createPod p.podSpec none w with ⟨r, w'⟩
        rw [made] at he hv
        subst hv
        rcases r.ok_or_ne with ⟨pod, rfl⟩ | failed
        · rw [run_of_created prepared waits held made]
          obtain ⟨r, fs, hr, hf, hs⟩ := turn_run_of_held c (x := { x with pod := some pod })
            prepared waits rfl s abort w'
          rw [hr]
          refine ⟨_, ?_, .made prepared waits held hs⟩
          rw [hf, he, List.append_assoc]
          rfl
        · rw [run_of_uncreated prepared waits held made failed]
          exact ⟨_, he, .uncreated prepared waits held failed⟩

theorem calls_cleanupNotes (prepared : Option Prepared)
    (answer : Option (Except ClusterError Unit)) : calls (cleanupNotes prepared answer) = [] := by
  rcases answer with _ | _ | _ <;> cases prepared <;> rfl

theorem turn_cleanup (x : Executor) (w : World) :
    ∃ es, (x.cleanup c w).2.2.events = w.events ++ es ∧
      Turn x .cleanup (.cleaned (x.cleanup c w).1) es (x.cleanup c w).2.1 := by
  cases held : x.pod with
  | none =>
    rw [cleanup_of_free held]
    exact ⟨[], (List.append_nil _).symm, .idle held⟩
  | some pod =>
    cases waits : x.polling with
    | none =>
      rw [cleanup_of_lacking held waits]
      exact ⟨[], (List.append_nil _).symm, .dropped held waits⟩
    | some polling =>
      rw [cleanup_of_held held waits]
      obtain ⟨es, he, hv⟩ := c.records_deletePod pod none w
      subst hv
      generalize (c.deletePod pod none w).1.value? = answer at he ⊢
      have asked : calls (.delete pod answer :: cleanupNotes x.prepared answer) =
          [.delete pod answer] :=
        congrArg (List.cons _) (calls_cleanupNotes x.prepared answer)
      refine ⟨_, ?_, .released held waits asked⟩
      rw [World.events_foldl_record, he, List.append_assoc]
      rfl

theorem turn_perform (x : Executor) (op : Operation) (w : World) :
    ∃ es, (x.perform connect c op w).2.2.events = w.events ++ es ∧
      Turn x op (x.perform connect c op w).1 es (x.perform connect c op w).2.1 := by
  cases op with
  | prepare runner job => exact turn_prepare connect x runner job w
  | run step abortAfter => exact turn_run c x step (abortAfter.map (w.now + ·)) w abortAfter
  | cleanup => exact turn_cleanup c x w

/-! ## Moments -/

/-- One operation of a history. -/
structure Moment where
  before : Executor
  began : World
  op : Operation
  result : Result
  after : Executor
  ended : World

/-- The runner and the job that an operation settles, if it does. -/
def accepted? : Operation → Result → Option (Runner × Job)
  | .prepare runner job, .prepared (.ok ()) => some (runner, job)
  | _, _ => none

namespace Moment

/-- The events of the operation. -/
def events (m : Moment) : List Event := m.ended.events.drop m.began.events.length

/-- The operation with its result and events is a turn. -/
def IsTurn (m : Moment) : Prop := Turn m.before m.op m.result m.events m.after

end Moment

def moment (x : Executor) (op : Operation) (w : World) : Moment :=
  let (result, after, ended) := x.perform connect c op w
  ⟨x, w, op, result, after, ended⟩

theorem events_moment (x : Executor) (op : Operation) (w : World) :
    (moment connect c x op w).ended.events = w.events ++ (moment connect c x op w).events := by
  obtain ⟨es, he, -⟩ := turn_perform connect c x op w
  have h : (moment connect c x op w).ended.events = w.events ++ es := he
  rw [Moment.events, h]
  exact congrArg _ List.drop_left.symm

/-- Every operation is one turn. -/
theorem turn_moment (x : Executor) (op : Operation) (w : World) :
    (moment connect c x op w).IsTurn := by
  obtain ⟨es, he, ht⟩ := turn_perform connect c x op w
  have h : (moment connect c x op w).events = es :=
    List.append_cancel_left ((events_moment connect c x op w).symm.trans he)
  rw [Moment.IsTurn, h]
  exact ht

/-! ## Histories -/

/-- What operations come to, one after the other. -/
def history (x : Executor) : List Operation → World → List Moment
  | [], _ => []
  | op :: ops, w =>
    let m := moment connect c x op w
    m :: history m.after ops m.ended

/-- The events of a history. -/
def log (ms : List Moment) : List Event := ms.flatMap Moment.events

/-- The runner and the job that were settled last. -/
def lastAccepted (ms : List Moment) : Option (Runner × Job) :=
  (ms.filterMap fun m => accepted? m.op m.result).getLast?

@[simp] theorem log_append (ms ns : List Moment) : log (ms ++ ns) = log ms ++ log ns :=
  List.flatMap_append

@[simp] theorem log_singleton (m : Moment) : log [m] = m.events := List.flatMap_singleton ..

theorem lastAccepted_append (ms ns : List Moment) :
    lastAccepted (ms ++ ns) = (lastAccepted ns).or (lastAccepted ms) := by
  simp only [lastAccepted, List.filterMap_append, List.getLast?_append]

theorem lastAccepted_singleton (m : Moment) : lastAccepted [m] = accepted? m.op m.result := by
  unfold lastAccepted
  cases h : accepted? m.op m.result <;> simp [h]

/-- What was settled last was settled by an operation. -/
theorem exists_of_lastAccepted {ms : List Moment} {runner : Runner} {job : Job}
    (h : lastAccepted ms = some (runner, job)) : ∃ m ∈ ms, m.op = .prepare runner job := by
  obtain ⟨m, hm, accepted⟩ := List.mem_filterMap.1 (List.mem_of_getLast? h)
  refine ⟨m, hm, ?_⟩
  unfold accepted? at accepted
  split at accepted
  · rename_i op _
    obtain ⟨rfl, rfl⟩ := Prod.mk.inj (Option.some.inj accepted)
    exact op
  · cases accepted

/-- A history is what the operations come to when they are performed in order. -/
theorem performAll_eq_history (x : Executor) (ops : List Operation) (w : World) :
    (x.performAll connect c ops w).1 = (history connect c x ops w).map Moment.result ∧
      (x.performAll connect c ops w).2.1 =
        ((history connect c x ops w).getLast?.map Moment.after).getD x ∧
      (x.performAll connect c ops w).2.2.events = w.events ++ log (history connect c x ops w) := by
  induction ops generalizing x w with
  | nil => exact ⟨rfl, rfl, (List.append_nil _).symm⟩
  | cons op ops ih =>
    let m := moment connect c x op w
    obtain ⟨hr, hx, he⟩ := ih m.after m.ended
    refine ⟨congrArg (List.cons m.result) hr, ?_, ?_⟩
    · refine hx.trans ?_
      show _ = ((m :: history connect c m.after ops m.ended).getLast?.map Moment.after).getD x
      rw [List.getLast?_cons]
      cases (history connect c m.after ops m.ended).getLast? <;> rfl
    · refine he.trans ?_
      rw [events_moment, List.append_assoc]
      rfl

/-- Operations up to a moment lead to that moment, whatever operations follow. -/
theorem history_split {x : Executor} {ops : List Operation} {w : World} {pre post : List Moment}
    {m : Moment} (h : history connect c x ops w = pre ++ m :: post) :
    ∃ before after, ops = before ++ m.op :: after ∧ before.length = pre.length ∧
      m = moment connect c m.before m.op m.began ∧
      post = history connect c m.after after m.ended ∧
      ∀ rest, history connect c x (before ++ rest) w =
        pre ++ history connect c m.before rest m.began := by
  induction pre generalizing x ops w with
  | nil =>
    cases ops with
    | nil => cases h
    | cons op ops =>
      obtain ⟨rfl, rfl⟩ := List.cons.inj h
      exact ⟨[], ops, rfl, rfl, rfl, rfl, fun _ => rfl⟩
  | cons head pre ih =>
    cases ops with
    | nil => cases h
    | cons op ops =>
      obtain ⟨rfl, rest⟩ := List.cons.inj h
      obtain ⟨before, after, rfl, length, same, next, upTo⟩ := ih rest
      exact ⟨op :: before, after, rfl, congrArg (· + 1) length, same, next,
        fun rest => congrArg (List.cons _) (upTo rest)⟩

/-- What holds at first and is preserved by every turn holds before each moment of a history, which
is itself a turn. -/
theorem history_induction {I : List Moment → Executor → Prop} {x : Executor}
    {ops : List Operation} {w : World} {pre post : List Moment} {m : Moment} (start : I [] x)
    (step : ∀ ms m, I ms m.before → m.IsTurn → I (ms ++ [m]) m.after)
    (h : history connect c x ops w = pre ++ m :: post) : I pre m.before ∧ m.IsTurn := by
  suffices along : ∀ (ops : List Operation) (past pre : List Moment) (x : Executor) (w : World),
      I past x → history connect c x ops w = pre ++ m :: post →
      I (past ++ pre) m.before ∧ m.IsTurn from along ops [] pre x w start h
  intro ops
  induction ops with
  | nil =>
    intro past pre x w _ h
    exact absurd h (by cases pre <;> simp [history])
  | cons op ops ih =>
    intro past pre x w hx h
    have turn := turn_moment connect c x op w
    cases pre with
    | nil =>
      obtain rfl : moment connect c x op w = m := (List.cons.inj h).1
      rw [List.append_nil]
      exact ⟨hx, turn⟩
    | cons head pre =>
      obtain ⟨rfl, rest⟩ := List.cons.inj h
      have := ih (past ++ [moment connect c x op w]) pre _ _ (step _ _ hx turn) rest
      rwa [List.append_assoc] at this

/-! ## What an executor knows -/

/-- An executor before its first operation. -/
def fresh (connected : Bool) : Executor := ⟨connected, none, none, none⟩

/-- A pod is held by a prepared executor only, and a prepared executor knows how to wait. -/
structure Coherent (x : Executor) : Prop where
  waits : x.polling.isSome = x.prepared.isSome
  prepared : x.pod.isSome → x.prepared.isSome

theorem coherent_fresh (connected : Bool) : (fresh connected).Coherent := ⟨rfl, fun h => h⟩

theorem Coherent.exists_polling {x : Executor} {p : Prepared} (h : x.Coherent)
    (prepared : x.prepared = some p) : ∃ polling, x.polling = some polling :=
  Option.isSome_iff_exists.1 (by rw [h.waits, prepared]; rfl)

theorem Coherent.exists_prepared {x : Executor} {pod : PodRef} (h : x.Coherent)
    (held : x.pod = some pod) : ∃ p, x.prepared = some p :=
  Option.isSome_iff_exists.1 (h.prepared (by rw [held]; rfl))

theorem Turn.coherent {x y : Executor} {op : Operation} {r : Result} {es : List Event}
    (turn : Turn x op r es y) (h : x.Coherent) : y.Coherent := by
  cases turn with
  | refused | unprepared | uncreated | reused | idle => exact h
  | accepted => exact ⟨rfl, fun _ => rfl⟩
  | made prepared => exact ⟨h.waits, fun _ => by simp [prepared]⟩
  | dropped | released => exact ⟨h.waits, fun held => absurd held (by simp)⟩

/-- What an operation does with the pod that the executor holds: it goes on with it or without one,
makes one, or hands it to deletion. -/
inductive Flow (x : Executor) : Operation → List Event → Executor → Prop where
  | kept {op es y} (same : y.pod = x.pod) (quiet : Quiet es) : Flow x op es y
  | made {step abort p pod es y} (prepared : x.prepared = some p) (free : x.pod = none)
      (held : y.pod = some pod) (quiet : Quiet es) :
      Flow x (.run step abort) (.create p.podSpec (some (.ok pod)) :: es) y
  | released {pod answer es y} (held : x.pod = some pod) (free : y.pod = none)
      (asked : calls es = [.delete pod answer]) : Flow x .cleanup es y

theorem Turn.flow {x y : Executor} {op : Operation} {r : Result} {es : List Event}
    (turn : Turn x op r es y) (h : x.Coherent) : Flow x op es y := by
  cases turn with
  | refused | unprepared | idle => exact .kept rfl quiet_nil
  | accepted => exact .kept rfl (quiet_calls.1 quiet_nil)
  | uncreated _ _ _ failed => exact .kept rfl (quiet_create failed)
  | reused _ _ _ stepped => exact .kept rfl (quiet_calls.1 stepped.quiet)
  | made prepared _ free stepped => exact .made prepared free rfl (quiet_calls.1 stepped.quiet)
  | dropped held lacking =>
    -- A coherent executor that holds a pod knows how to wait.
    have waits : x.polling.isSome := by
      rw [h.waits]
      exact h.prepared (by simp [held])
    simp [lacking] at waits
  | released held _ asked => exact .released held rfl asked

/-- What is prepared is what was settled last. -/
theorem Turn.accepted_eq {x y : Executor} {op : Operation} {r : Result} {es : List Event}
    {last : Option (Runner × Job)} (turn : Turn x op r es y)
    (h : last.map (fun a => Prepared.resolve a.1 a.2) = x.prepared.map .ok) :
    ((accepted? op r).or last).map (fun a => Prepared.resolve a.1 a.2) = y.prepared.map .ok := by
  cases turn with
  | accepted settled => exact congrArg some settled
  | _ => exact h

end Executor

/-! ## A cluster to try out -/

namespace Sample

/-- The first creation and the first deletion fail, the first look finds a pod pending and every
other one finds it running, and the first script crashes. -/
def cluster : Cluster where
  create n _ := ⟨10, if n = 0 then .fails (.api 500 "quota") else .returns ⟨toString n, "ci"⟩⟩
  state n _ := ⟨10, .returns ⟨if n = 0 then .pending else .running, none⟩⟩
  exec n _ _ := ⟨[], 10, if n = 0 then .crashes "bug" else .returns ()⟩
  delete n _ := ⟨10, if n = 0 then .fails (.api 500 "busy") else .returns ()⟩

def runner : Runner := { name := "k8s", cluster := { ns := "ci", image := some "ruby:2.3" } }

def job : Job :=
  ⟨99, 5, 0, "/builds/5", [.ofPublic "CI" "true", .ofSecret "TOKEN" "1234"], {},
    ⟨"sh", false, ["sh"]⟩, "main"⟩

/-- A job with another image. -/
def otherJob : Job := { job with id := 100, options := { image := some "python:3" } }

def step : Step := { script := "make" }

/-- Operations on the cluster, with a connection that is there from the start. -/
def trial (ops : List Executor.Operation) : List Executor.Moment :=
  Executor.history (fun _ => .ok ()) cluster (.fresh true) ops {}

end Sample

end PodRunner
