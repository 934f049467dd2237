import PodRunner.Api.State
import PodRunner.Proofs.BoundedPolling

/-!
# Containers that are stuck

Four reasons for which a container can wait never resolve (`StuckFor`).  A pod object is seen as one
that waits for nothing if none of its container statuses has such a reason, and else for the reason
of the first one that has (`Stuck`), whatever the statuses before it say.  Polling goes on after
each pending pod that is not stuck and stops at the first one that is (`Cluster.podState_decides`).
-/

namespace PodRunner

/-! ## Parts of a value -/

namespace Value

/-- What a value has at the end of a path of keys. -/
def at? (v : Value) : List String → Option Value
  | [] => some v
  | k :: path => (v.field? k).bind (at? · path)

variable (v : Value) (k : String)

theorem at?_singleton : v.at? [k] = v.field? k := Option.bind_fun_some _

theorem at?_cons_cons (l : String) (path : List String) :
    v.at? (k :: l :: path) = (v.get k).at? (l :: path) := by
  rw [at?, get]
  cases v.field? k <;> rfl

variable {v k}

theorem text?_eq_some_iff {s : String} : v.text? = some s ↔ v = .text s := by
  cases v <;> simp [text?]

theorem text?_get_eq_some_iff {s : String} :
    (v.get k).text? = some s ↔ v.field? k = some (.text s) := by
  rw [text?_eq_some_iff, get]
  cases v.field? k with
  | none => simp
  | some part => exact Option.some_inj.symm

/-- A part that is no list is looked at like an empty one. -/
theorem items_get_cases (v : Value) (k : String) :
    v.field? k = some (.list (v.get k).items) ∨
      (∀ xs, v.field? k ≠ some (.list xs)) ∧ (v.get k).items = [] := by
  rw [get]
  rcases v.field? k with _ | (_ | _ | _ | _ | _ | xs | _)
  case some.list => exact .inl rfl
  all_goals
    refine .inr ⟨fun xs listed => ?_, rfl⟩
    cases listed

end Value

/-! ## Reasons -/

/-- The status of a container says that it waits for a reason that never resolves. -/
def StuckFor (status : Value) (reason : String) : Prop :=
  status.at? ["state", "waiting", "reason"] = some (.text reason) ∧
    reason ∈ ["ErrImagePull", "ImagePullBackOff", "InvalidImageName", "CreateContainerConfigError"]

/-- The first of the statuses that is stuck is stuck for this reason. -/
def FirstStuck (statuses : List Value) (reason : String) : Prop :=
  ∃ before status after, statuses = before ++ status :: after ∧ StuckFor status reason ∧
    ∀ s ∈ before, ∀ r, ¬ StuckFor s r

/-- The container statuses that a pod object lists. -/
def ListsStatuses (pod : Value) (statuses : List Value) : Prop :=
  pod.at? ["status", "containerStatuses"] = some (.list statuses)

/-- The first container of the pod that is stuck is stuck for this reason. -/
def Stuck (pod : Value) (reason : String) : Prop :=
  ∃ statuses, ListsStatuses pod statuses ∧ FirstStuck statuses reason

/-- The pod object names its phase so. -/
def NamesPhase (pod : Value) (text : String) : Prop :=
  pod.at? ["status", "phase"] = some (.text text)

namespace Api

variable {status : Value} {reason : String} {statuses : List Value}

theorem waitingReason?_eq_some_iff : waitingReason? status = some reason ↔
    status.at? ["state", "waiting", "reason"] = some (.text reason) := by
  rw [waitingReason?, Value.text?_get_eq_some_iff, Value.at?_cons_cons, Value.at?_cons_cons,
    Value.at?_singleton]

theorem fatalReason?_eq_some_iff : fatalReason? status = some reason ↔ StuckFor status reason := by
  rw [fatalReason?, Option.filter_eq_some_iff, waitingReason?_eq_some_iff, List.contains_iff_mem]
  rfl

theorem fatalReason?_eq_none_iff : fatalReason? status = none ↔ ∀ r, ¬ StuckFor status r := by
  simp only [Option.eq_none_iff_forall_ne_some, ne_eq, fatalReason?_eq_some_iff]

theorem findSome?_fatalReason?_eq_some_iff :
    statuses.findSome? fatalReason? = some reason ↔ FirstStuck statuses reason := by
  simp only [List.findSome?_eq_some_iff, fatalReason?_eq_some_iff, fatalReason?_eq_none_iff]
  rfl

theorem findSome?_fatalReason?_eq_none_iff : statuses.findSome? fatalReason? = none ↔
    ∀ status ∈ statuses, ∀ r, ¬ StuckFor status r := by
  simp only [List.findSome?_eq_none_iff, fatalReason?_eq_none_iff]

end Api

/-! ## What is seen of a pod -/

namespace Phase

theorem text_ofText (text : String) :
    text = (ofText text).text ∨ ofText text = .unknown := by
  unfold ofText
  split_ifs with pending running succeeded failed
  · exact .inl pending
  · exact .inl running
  · exact .inl succeeded
  · exact .inl failed
  · exact .inr rfl

theorem ofText_eq_iff {text : String} {p : Phase} :
    ofText text = p ↔ text = p.text ∨ p = .unknown ∧ ∀ q : Phase, text ≠ q.text := by
  by_cases named : ∃ q : Phase, text = q.text
  · obtain ⟨q, rfl⟩ := named
    rw [ofText_text]
    constructor
    · rintro rfl
      exact .inl rfl
    · rintro (same | ⟨-, unnamed⟩)
      · rw [← ofText_text q, same, ofText_text]
      · exact absurd rfl (unnamed q)
  · have unnamed : ∀ q : Phase, text ≠ q.text := not_exists.1 named
    have unknown := (text_ofText text).resolve_left (unnamed _)
    rw [unknown, or_iff_right (unnamed p), and_iff_left unnamed, eq_comm]

end Phase

section Sight

variable {pod : Value} {reason : String} {statuses : List Value} {p : Phase}

theorem listsStatuses_iff : ListsStatuses pod statuses ↔
    (pod.get "status").field? "containerStatuses" = some (.list statuses) := by
  rw [ListsStatuses, Value.at?_cons_cons, Value.at?_singleton]

theorem waiting_eq_some_iff : (Api.podState pod).waiting = some reason ↔ Stuck pod reason := by
  rw [Api.podState, Api.findSome?_fatalReason?_eq_some_iff, Stuck]
  simp only [listsStatuses_iff]
  rcases Value.items_get_cases (pod.get "status") "containerStatuses" with listed | ⟨unlisted, none⟩
  · simp [listed]
  · rw [none]
    refine iff_of_false ?_ ?_
    · rintro ⟨before, status, after, split, -⟩
      cases before <;> cases split
    · rintro ⟨statuses, listed, -⟩
      exact unlisted statuses listed

theorem waiting_eq_none_iff : (Api.podState pod).waiting = none ↔
    ∀ statuses, ListsStatuses pod statuses → ∀ status ∈ statuses, ∀ r, ¬ StuckFor status r := by
  rw [Api.podState, Api.findSome?_fatalReason?_eq_none_iff]
  simp only [listsStatuses_iff]
  rcases Value.items_get_cases (pod.get "status") "containerStatuses" with listed | ⟨unlisted, none⟩
  · simp [listed]
  · rw [none]
    exact iff_of_true nofun fun statuses listed => absurd listed (unlisted statuses)

theorem namesPhase_iff {text : String} :
    NamesPhase pod text ↔ ((pod.get "status").get "phase").text? = some text := by
  rw [NamesPhase, Value.text?_get_eq_some_iff, Value.at?_cons_cons, Value.at?_singleton]

theorem phase_eq_iff : (Api.podState pod).phase = p ↔
    NamesPhase pod p.text ∨ p = .unknown ∧ ∀ q : Phase, ¬ NamesPhase pod q.text := by
  simp only [Api.podState, namesPhase_iff]
  cases ((pod.get "status").get "phase").text? with
  | none => simp [eq_comm]
  | some text =>
    simp only [Option.map_some, Option.getD_some, Option.some_inj]
    exact Phase.ofText_eq_iff

theorem podState_of_stuck (pending : NamesPhase pod "Pending") (stuck : Stuck pod reason) :
    Api.podState pod = ⟨.pending, some reason⟩ := by
  have phase : (Api.podState pod).phase = .pending := phase_eq_iff.2 (.inl pending)
  have waiting := waiting_eq_some_iff.2 stuck
  rw [← phase, ← waiting]

end Sight

/-! ## Polling -/

/-- What was seen of a pod is no reason to stop: it is pending and not stuck, or nothing was seen
of it, although it is not known to be gone. -/
inductive Waits : Except ClusterError Value → Prop
  | pending {pod : Value} : NamesPhase pod "Pending" → (∀ reason, ¬ Stuck pod reason) →
      Waits (.ok pod)
  | failed {e : ClusterError} : e.notFound = false → Waits (.error e)

namespace Cluster

variable {c : Cluster} {settings : PollSettings} {pod : PodRef} {w : World} {k : Nat}
variable {seen : Nat → Except ClusterError Value}

/-- What is seen in the looks that show these pod objects. -/
def states (seen : Nat → Except ClusterError Value) (j : Nat) : Except ClusterError PodState :=
  (seen j).map Api.podState

/-- The first `k` looks at the pod from the one with the number `first` on show these pod
objects. -/
def Shows (c : Cluster) (pod : PodRef) (first : Nat) (seen : Nat → Except ClusterError Value)
    (k : Nat) : Prop :=
  ∀ j < k, (c.state (first + j) pod).outcome.answer? = some (states seen j)

/-- The first `k` looks at the pod, with what was seen. -/
def looks (pod : PodRef) (seen : Nat → Except ClusterError Value) (k : Nat) : List Event :=
  (List.range k).map fun j => .state pod (some (states seen j))

theorem decisive_of_waits {j : Nat} (h : Waits (seen j)) : decisive (states seen j) = false := by
  rw [states]
  generalize seen j = look at h ⊢
  cases h with
  | failed found => exact (decisive_error _).trans found
  | @pending pod pending loose =>
    have phase : (Api.podState pod).phase = .pending := phase_eq_iff.2 (.inl pending)
    have waiting : (Api.podState pod).waiting = none := by
      simpa only [Option.eq_none_iff_forall_ne_some, ne_eq, waiting_eq_some_iff] using loose
    show decisive (.ok (Api.podState pod)) = false
    simp [decisive, phase, waiting]

/-- An attempt begins with a look at the pod. -/
theorem records_attempt_look (pod : PodRef) (trace : String)
    {next : Option ClusterError → Task (Except Error Phase)}
    (later : ∀ lastError, (next lastError).Records fun _ _ => True) :
    (c.attempt pod trace next).Records fun _ es =>
      ∃ answer rest, calls es = .state pod answer :: rest := by
  unfold attempt
  refine (c.records_podState pod).bind (fun answer es hes => ?_) fun es hes => ⟨none, [], ?_⟩
  · subst hes
    cases look pod answer with
    | decided result => exact Task.records_pure result ⟨some answer, [], rfl⟩
    | pending line lastError =>
      refine (Task.records_record (P := fun _ _ => True) _ trivial).bind (fun _ fs _ => ?_)
        fun fs _ => ⟨some answer, calls fs, rfl⟩
      exact (later lastError).mono fun _ gs _ => ⟨some answer, calls (fs ++ gs), rfl⟩
  · rw [hes]
    rfl

theorem records_poll_look (interval : Duration) (pod : PodRef) (trace : String) (n : Nat) :
    (c.poll interval pod trace n).Records fun _ es =>
      ∃ answer rest, calls es = .state pod answer :: rest := by
  cases n with
  | zero => exact records_attempt_look pod trace fun _ => Task.records_pure _ trivial
  | succ n =>
    refine records_attempt_look pod trace fun _ => ?_
    refine (Task.records_pause (P := fun _ _ => True) _ trivial trivial).bind (fun _ _ _ => ?_)
      fun _ _ => trivial
    exact (c.records_poll interval pod trace n).mono fun _ _ _ => trivial

/-- After pods that are waited for, polling goes on. -/
theorem awaitRunning_of_waits (trace : String) (within : k < settings.attempts)
    (shown : Shows c pod w.counts.state seen k) (waits : ∀ j < k, Waits (seen j)) :
    c.awaitRunning settings pod trace none w =
      c.poll settings.interval pod trace (settings.attempts - 1 - k) none
        (afterAsked c settings.interval pod trace w (states seen) k) := by
  have budget : settings.attempts - 1 = settings.attempts - 1 - k + k := by omega
  unfold awaitRunning
  rw [← poll_of_undecided c settings.interval pod trace _ shown
    fun j hj => decisive_of_waits (waits j hj), ← budget]

theorem exists_look_after_waits (trace : String) (within : k < settings.attempts)
    (shown : Shows c pod w.counts.state seen k) (waits : ∀ j < k, Waits (seen j)) :
    ∃ es answer rest, (c.awaitRunning settings pod trace none w).2.events = w.events ++ es ∧
      calls es = looks pod seen k ++ .state pod answer :: rest := by
  rw [awaitRunning_of_waits trace within shown waits]
  obtain ⟨fs, recorded, answer, rest, first⟩ := records_poll_look settings.interval pod trace
    (settings.attempts - 1 - k) none (afterAsked c settings.interval pod trace w (states seen) k)
  refine ⟨askedAll pod trace (states seen) k ++ fs, answer, rest, ?_, ?_⟩
  · rw [recorded, afterAsked, World.events_after, List.append_assoc]
  · rw [calls_append, calls_askedAll, first, looks]

theorem awaitRunning_of_stuck (trace : String) {object : Value} {reason : String}
    (within : k < settings.attempts)
    (shown : Shows c pod w.counts.state seen (k + 1)) (waits : ∀ j < k, Waits (seen j))
    (last : seen k = .ok object) (pending : NamesPhase object "Pending")
    (stuck : Stuck object reason) :
    c.awaitRunning settings pod trace none w =
      (.value (.error (.podNotRunning ("Pending (" ++ reason ++ ")"))),
        w.after (askedAll pod trace (states seen) (k + 1))
          (w.now + delays c pod w.counts.state (k + 1) + k * settings.interval.ticks)) := by
  have answer : states seen k = .ok ⟨.pending, some reason⟩ := by
    rw [states, last]
    exact congrArg Except.ok (podState_of_stuck pending stuck)
  have decided : decisive (states seen k) = true := by
    rw [answer]
    rfl
  have asked := answer_afterAsked c settings.interval pod trace (shown k (Nat.lt_succ_self k))
  have earlier : Shows c pod w.counts.state seen k := fun j hj => shown j (Nat.lt_succ_of_lt hj)
  rw [awaitRunning_of_waits trace within earlier waits, poll_of_decisive asked _ _ _ decided,
    now_afterAsked, after_afterAsked, answer]
  rfl

/-- What is seen of a pod object is the phase that it names, and an unknown one if it names none of
the known phases, together with the reason for which the first of its stuck containers is stuck, if
one is.  While the looks within the budget show a pod that is pending and not stuck, or fail,
polling looks at the pod again; the first look that shows a stuck pod ends it with the reason. -/
theorem podState_decides :
    (∀ object : Value,
      (∀ p, (Api.podState object).phase = p ↔
        NamesPhase object p.text ∨ p = .unknown ∧ ∀ q : Phase, ¬ NamesPhase object q.text) ∧
      (∀ reason, (Api.podState object).waiting = some reason ↔ Stuck object reason) ∧
      ((Api.podState object).waiting = none ↔ ∀ statuses, ListsStatuses object statuses →
        ∀ status ∈ statuses, ∀ reason, ¬ StuckFor status reason)) ∧
    ∀ (c : Cluster) (settings : PollSettings) (pod : PodRef) (trace : String) (w : World)
        (seen : Nat → Except ClusterError Value) (k : Nat),
      k < settings.attempts → (∀ j < k, Waits (seen j)) →
        let run := c.awaitRunning settings pod trace none w
        (Shows c pod w.counts.state seen k → ∃ es answer rest,
          run.2.events = w.events ++ es ∧
            calls es = looks pod seen k ++ .state pod answer :: rest) ∧
        ∀ object reason, Shows c pod w.counts.state seen (k + 1) → seen k = .ok object →
          NamesPhase object "Pending" → Stuck object reason →
            run.1 = .value (.error (.podNotRunning ("Pending (" ++ reason ++ ")"))) ∧
              ∃ es, run.2.events = w.events ++ es ∧ calls es = looks pod seen (k + 1) := by
  refine ⟨fun object => ⟨fun _ => phase_eq_iff, fun _ => waiting_eq_some_iff,
    waiting_eq_none_iff⟩, fun c settings pod trace w seen k within waits => ?_⟩
  refine ⟨fun shown => exists_look_after_waits trace within shown waits,
    fun object reason shown last pending stuck => ?_⟩
  have ended := awaitRunning_of_stuck trace within shown waits last pending stuck
  exact ⟨congrArg Prod.fst ended, _, (congrArg (·.2.events) ended).trans (World.events_after ..),
    calls_askedAll ..⟩

/-- Of three looks that are allowed, the first one fails, the second one shows a pod of which one
container is created and one has no state, and the third one shows that an image cannot be
pulled. -/
theorem sample_podState_decides :
    let waiting (reason : String) : Value := .object [("status", .object
      [("phase", .text "Pending"), ("containerStatuses", .list [.object [], .object [("state",
        .object [("waiting", .object [("reason", .text reason)])])]])])]
    let seen (j : Nat) : Except ClusterError Value :=
      if j = 0 then .error (.transport "reset")
      else .ok (waiting (if j = 1 then "ContainerCreating" else "ImagePullBackOff"))
    let c : Cluster := { Sample.cluster with
      state := fun j _ => { outcome := match states seen j with
        | .ok s => .returns s
        | .error e => .fails e } }
    (c.awaitRunning ⟨.ofMillis 5, .ofMillis 15⟩ ⟨"1", "ci"⟩ "main" none {}).1 =
      .value (.error (.podNotRunning "Pending (ImagePullBackOff)")) := by
  intro waiting seen c
  obtain ⟨sight, polling⟩ := podState_decides
  have creating : (Api.podState (waiting "ContainerCreating")).waiting = none := by decide +kernel
  have pulling : (Api.podState (waiting "ImagePullBackOff")).waiting = some "ImagePullBackOff" := by
    decide +kernel
  have pending (reason : String) : NamesPhase (waiting reason) "Pending" := rfl
  have loose (reason : String) : ¬ Stuck (waiting "ContainerCreating") reason := by
    rw [← (sight _).2.1, creating]
    nofun
  have waits : ∀ j < 2, Waits (seen j)
    | 0, _ => .failed rfl
    | 1, _ => .pending (pending _) loose
  have shown : Shows c ⟨"1", "ci"⟩ 0 seen 3 := by
    intro j _
    rw [Nat.zero_add]
    show (match states seen j with
      | .ok s => Outcome.returns s
      | .error e => .fails e).answer? = some (states seen j)
    cases states seen j <;> rfl
  have last := polling c ⟨.ofMillis 5, .ofMillis 15⟩ ⟨"1", "ci"⟩ "main" {} seen 2 (by decide) waits
  exact (last.2 _ _ shown rfl (pending _) (((sight _).2.1 _).1 pulling)).1

end Cluster

end PodRunner
