import Mathlib.Data.List.Forall2
import PodRunner.Proofs.History
import PodRunner.Proofs.Resolution

/-!
# Secrets are not observed

Of the variables of its jobs an executor uses what containers may see and whether they ask for
privilege, and nothing else.  Two lists of variables that agree on this are `Variables.Alike`, two
operations that differ in such lists only are `Executor.Operation.Alike`; nobody can tell apart what
such operations come to (`Executor.secrets_unobserved`).
-/

namespace PodRunner

/-! ## Variables -/

/-- The declaration decides what containers see or what privilege they have. -/
def Variable.visible (v : Variable) : Bool :=
  (!v.masked && (v.isPublic || v.isInternal)) || v.key = Variables.privilegedKey

namespace Variables

/-- The keys and values that are not masked, and public or internal. -/
def shown (vs : Variables) : List (String × String) :=
  (vs.filter fun v => !v.masked && (v.isPublic || v.isInternal)).map fun v => (v.key, v.value)

/-- Containers see the same, with the same privilege. -/
structure Alike (vs ws : Variables) : Prop where
  shown : vs.shown = ws.shown
  privileged : vs.privileged = ws.privileged

theorem Alike.refl (vs : Variables) : Alike vs vs := ⟨rfl, rfl⟩

/-- This is what goes to containers. -/
theorem map_exported (vs : Variables) : (vs.exported.map fun v => (v.key, v.value)) = vs.shown := rfl

theorem shown_filter_visible (vs : Variables) : shown (vs.filter Variable.visible) = vs.shown := by
  rw [shown, shown, List.filter_filter]
  refine congrArg (List.map _) (List.filter_congr fun v _ => ?_)
  unfold Variable.visible
  cases v.masked <;> cases v.isPublic || v.isInternal <;> rfl

theorem get?_filter_visible (vs : Variables) :
    get? (vs.filter Variable.visible) privilegedKey = get? vs privilegedKey := by
  rw [get?, get?, ← List.filter_reverse, List.find?_filter]
  refine congrArg (Option.map _) (congrArg (List.find? · vs.reverse) (funext fun v => ?_))
  rw [decide_eq_decide]
  unfold Variable.visible
  by_cases hk : v.key = privilegedKey <;> simp [hk]

/-- Lists with the same visible declarations are alike, whatever else they declare and where. -/
theorem alike_of_visible {vs ws : Variables}
    (h : vs.filter Variable.visible = ws.filter Variable.visible) : Alike vs ws := by
  refine ⟨?_, ?_⟩
  · rw [← shown_filter_visible vs, h, shown_filter_visible]
  · rw [privileged, privileged, ← get?_filter_visible vs, h, get?_filter_visible]

end Variables

/-! ## Jobs -/

/-- The same job with other variables. -/
def Job.withVariables (job : Job) (vs : Variables) : Job := { job with «variables» := vs }

@[simp] theorem Job.summary_withVariables (job : Job) (vs : Variables) :
    (job.withVariables vs).summary = job.summary := rfl

namespace Prepared

/-- The same settled job with other variables. -/
def withVariables (p : Prepared) (vs : Variables) : Prepared :=
  { p with job := p.job.withVariables vs }

variable {p : Prepared} {vs : Variables}

theorem container_withVariables (h : p.job.variables.Alike vs) :
    (p.withVariables vs).workspace.container = p.workspace.container := by
  funext name image limits command
  unfold Workspace.container
  rw [show (p.withVariables vs).workspace.variables = vs from rfl, Variables.map_exported,
    ← h.shown]
  rfl

/-- Alike variables make the same pod. -/
theorem podSpec_withVariables (h : p.job.variables.Alike vs) :
    (p.withVariables vs).podSpec = p.podSpec := by
  have same := container_withVariables h
  have build : (p.withVariables vs).build = p.build := by
    unfold build
    rw [same]
    rfl
  have helper : (p.withVariables vs).helper = p.helper := by
    unfold helper
    rw [same]
    rfl
  have services : (p.withVariables vs).services = p.services := by
    unfold services service
    rw [same]
    rfl
  unfold podSpec
  rw [build, helper, services]
  rfl

/-- Alike variables are settled alike. -/
theorem resolve_withVariables {job : Job} (runner : Runner) (h : job.variables.Alike vs) :
    resolve runner (job.withVariables vs) = (resolve runner job).map (·.withVariables vs) := by
  rw [resolve_eq, resolve_eq]
  have same : findings runner (job.withVariables vs).shell (job.withVariables vs).options
      (job.withVariables vs).variables.privileged =
        findings runner job.shell job.options job.variables.privileged := by
    rw [h.privileged]
    rfl
  rw [same]
  cases findings runner job.shell job.options job.variables.privileged with
  | error e => rfl
  | ok f =>
    have settled : ofFindings runner (job.withVariables vs) f =
        (ofFindings runner job f).withVariables vs := by
      unfold ofFindings withVariables
      rw [h.privileged]
      rfl
    exact congrArg Except.ok settled

/-- The same settled job, with variables that are alike. -/
inductive Alike (p : Prepared) : Prepared → Prop where
  | intro {ws : Variables} (h : p.job.variables.Alike ws) : Alike p (p.withVariables ws)

end Prepared

namespace Executor

/-! ## One operation -/

/-- The executors differ at most in the variables of what they have prepared. -/
structure Alike (x y : Executor) : Prop where
  connected : x.connected = y.connected
  prepared : Option.Rel Prepared.Alike x.prepared y.prepared
  polling : x.polling = y.polling
  pod : x.pod = y.pod

/-- The operations differ at most in the variables of the job to prepare. -/
inductive Operation.Alike : Operation → Operation → Prop where
  | prepare {runner : Runner} {job : Job} {vs : Variables} (h : job.variables.Alike vs) :
      Alike (.prepare runner job) (.prepare runner (job.withVariables vs))
  | run {step : Step} {abort : Option Nat} : Alike (.run step abort) (.run step abort)
  | cleanup : Alike .cleanup .cleanup

theorem Operation.Alike.refl (op : Operation) : op.Alike op := by
  cases op with
  | prepare runner job => exact .prepare (.refl job.variables)
  | run => exact .run
  | cleanup => exact .cleanup

theorem Alike.refl (x : Executor) : x.Alike x := by
  refine ⟨rfl, ?_, rfl, rfl⟩
  cases x.prepared with
  | none => exact .none
  | some p => exact .some (.intro (.refl p.job.variables))

/-- Neither has prepared anything, or both have but for the variables. -/
theorem Alike.cases {x y : Executor} (h : x.Alike y) :
    (x.prepared = none ∧ y.prepared = none) ∨
      ∃ p vs, x.prepared = some p ∧ y.prepared = some (p.withVariables vs) ∧
        p.job.variables.Alike vs := by
  have prepared := h.prepared
  generalize x.prepared = p, y.prepared = q at prepared
  cases prepared with
  | none => exact .inl ⟨rfl, rfl⟩
  | some same =>
    obtain ⟨same⟩ := same
    exact .inr ⟨_, _, rfl, rfl, same⟩

/-- The same happened to executors that are still alike. -/
structure Matched {α : Type} (a b : α × Executor × World) : Prop where
  result : a.1 = b.1
  alike : a.2.1.Alike b.2.1
  world : a.2.2 = b.2.2

variable {x y : Executor} {op op' : Operation} {ops ops' : List Operation}
variable (connect : ClusterSettings → Except Error Unit) (c : Cluster) (w : World)

theorem matched_prepare (h : x.Alike y) {job : Job} {vs : Variables} (runner : Runner)
    (same : job.variables.Alike vs) :
    Matched (x.prepare connect runner job w)
      (y.prepare connect runner (job.withVariables vs) w) := by
  unfold prepare
  rw [Prepared.resolve_withVariables runner same, ← h.connected]
  cases resolved : Prepared.resolve runner job with
  | error e => exact ⟨rfl, h, rfl⟩
  | ok p =>
    have still : p.job.variables.Alike vs := by
      rw [(Prepared.resolve_ok resolved).2]
      exact same
    cases (if x.connected then .ok () else connect runner.cluster : Except Error Unit) with
    | error e => exact ⟨rfl, h, rfl⟩
    | ok => exact ⟨rfl, ⟨rfl, .some (.intro still), rfl, h.pod⟩, rfl⟩

theorem matched_run_of_held (h : x.Alike y) {p : Prepared} {vs : Variables}
    {polling : PollSettings} {pod : PodRef} (px : x.prepared = some p)
    (py : y.prepared = some (p.withVariables vs)) (waits : x.polling = some polling)
    (held : x.pod = some pod) (s : Step) (abort : Option Nat) :
    Matched (x.run c s abort w) (y.run c s abort w) := by
  rw [run_of_held px waits held, run_of_held py (h.polling ▸ waits) (h.pod ▸ held)]
  exact ⟨rfl, h, rfl⟩

theorem matched_run (h : x.Alike y) (s : Step) (abort : Option Nat) :
    Matched (x.run c s abort w) (y.run c s abort w) := by
  rcases h.cases with ⟨px, py⟩ | ⟨p, vs, px, py, same⟩
  · rw [run_of_unprepared (.inl px), run_of_unprepared (.inl py)]
    exact ⟨rfl, h, rfl⟩
  · cases waits : x.polling with
    | none =>
      rw [run_of_unprepared (.inr waits), run_of_unprepared (.inr (h.polling ▸ waits))]
      exact ⟨rfl, h, rfl⟩
    | some polling =>
      cases held : x.pod with
      | some pod => exact matched_run_of_held c w h px py waits held s abort
      | none =>
        have waits' : y.polling = some polling := h.polling ▸ waits
        have free : y.pod = none := h.pod ▸ held
        have spec := Prepared.podSpec_withVariables same
        rcases made : c.createPod p.podSpec none w with ⟨r, w'⟩
        have made' : c.createPod (p.withVariables vs).podSpec none w = (r, w') := spec ▸ made
        rcases r.ok_or_ne with ⟨pod, rfl⟩ | failed
        · rw [run_of_created px waits held made, run_of_created py waits' free made']
          have now : { x with pod := some pod }.Alike { y with pod := some pod } :=
            ⟨h.connected, h.prepared, h.polling, rfl⟩
          exact matched_run_of_held c w' now px py waits rfl s abort
        · rw [run_of_uncreated px waits held made failed,
            run_of_uncreated py waits' free made' failed]
          exact ⟨rfl, h, rfl⟩

theorem cleanupNotes_eq {p q : Option Prepared} (h : Option.Rel Prepared.Alike p q)
    (answer : Option (Except ClusterError Unit)) :
    cleanupNotes p answer = cleanupNotes q answer := by
  cases h with
  | none => rfl
  | some same =>
    obtain ⟨_⟩ := same
    rfl

theorem matched_cleanup (h : x.Alike y) : Matched (x.cleanup c w) (y.cleanup c w) := by
  cases held : x.pod with
  | none =>
    rw [cleanup_of_free held, cleanup_of_free (h.pod ▸ held)]
    exact ⟨rfl, h, rfl⟩
  | some pod =>
    have freed : { x with pod := none }.Alike { y with pod := none } :=
      ⟨h.connected, h.prepared, h.polling, rfl⟩
    cases waits : x.polling with
    | none =>
      rw [cleanup_of_lacking held waits,
        cleanup_of_lacking (h.pod ▸ held) (h.polling ▸ waits)]
      exact ⟨rfl, freed, rfl⟩
    | some polling =>
      rw [cleanup_of_held held waits, cleanup_of_held (h.pod ▸ held) (h.polling ▸ waits),
        cleanupNotes_eq h.prepared]
      exact ⟨rfl, freed, rfl⟩

/-- Alike operations of alike executors come to the same and leave the executors alike. -/
theorem matched_perform (h : x.Alike y) (same : op.Alike op') :
    Matched (x.perform connect c op w) (y.perform connect c op' w) := by
  cases same with
  | prepare same =>
    obtain ⟨hr, hx, hw⟩ := matched_prepare connect w h _ same
    exact ⟨congrArg Result.prepared hr, hx, hw⟩
  | @run step abort =>
    obtain ⟨hr, hx, hw⟩ := matched_run c w h step (abort.map (w.now + ·))
    exact ⟨congrArg Result.ran hr, hx, hw⟩
  | cleanup =>
    obtain ⟨hr, hx, hw⟩ := matched_cleanup c w h
    exact ⟨congrArg Result.cleaned hr, hx, hw⟩

/-! ## Every history -/

/-- What there is to see of an operation: its result, its calls and its output, and then the pod
that is held and the time. -/
def Moment.observed (m : Moment) : Result × List Event × Option PodRef × Nat :=
  (m.result, m.events, m.after.pod, m.ended.now)

/-- What a log shows of the job to prepare. -/
def Operation.summary? : Operation → Option String
  | .prepare _ job => some job.summary
  | _ => none

theorem Operation.Alike.summary_eq (same : op.Alike op') : op.summary? = op'.summary? := by
  cases same with
  | prepare => exact congrArg some (Job.summary_withVariables _ _).symm
  | run | cleanup => rfl

theorem observed_moment (h : x.Alike y) (same : op.Alike op') :
    (moment connect c x op w).observed = (moment connect c y op' w).observed ∧
      (moment connect c x op w).after.Alike (moment connect c y op' w).after ∧
      (moment connect c x op w).ended = (moment connect c y op' w).ended := by
  obtain ⟨hr, hx, hw⟩ := matched_perform connect c w h same
  have result : (moment connect c x op w).result = (moment connect c y op' w).result := hr
  have alike : (moment connect c x op w).after.Alike (moment connect c y op' w).after := hx
  have ended : (moment connect c x op w).ended = (moment connect c y op' w).ended := hw
  have events : (moment connect c x op w).events = (moment connect c y op' w).events := by
    rw [Moment.events, ended]
    rfl
  refine ⟨?_, alike, ended⟩
  rw [Moment.observed, Moment.observed, result, events, alike.pod, ended]

/-- Nobody can tell apart what alike operations of alike executors come to. -/
theorem observed_history (same : List.Forall₂ Operation.Alike ops ops') (h : x.Alike y) :
    (history connect c x ops w).map Moment.observed =
      (history connect c y ops' w).map Moment.observed := by
  induction same generalizing x y w with
  | nil => rfl
  | cons same _ ih =>
    obtain ⟨seen, alike, ended⟩ := observed_moment connect c w h same
    rw [history, history, List.map_cons, List.map_cons, seen, ih _ alike, ended]

/-- Operations that differ only in variables that are alike have the same results, calls, output and
pods, and their jobs are logged alike.  So nothing depends on variables that containers may not see,
unless they are the one that asks for privilege: such variables may be added, removed and changed at
will. -/
theorem secrets_unobserved (x : Executor) :
    (∀ ops ops', List.Forall₂ Operation.Alike ops ops' →
      (history connect c x ops w).map Moment.observed =
          (history connect c x ops' w).map Moment.observed ∧
        ops.map Operation.summary? = ops'.map Operation.summary?) ∧
    ∀ before after runner job vs ws,
      vs.filter Variable.visible = ws.filter Variable.visible →
      (history connect c x
          (before ++ .prepare runner (Job.withVariables job vs) :: after) w).map Moment.observed =
        (history connect c x
          (before ++ .prepare runner (Job.withVariables job ws) :: after) w).map
            Moment.observed := by
  refine ⟨fun ops ops' same => ⟨?_, ?_⟩, fun before after runner job vs ws visible => ?_⟩
  · exact observed_history connect c w same (.refl x)
  · induction same with
    | nil => rfl
    | cons same _ ih => rw [List.map_cons, List.map_cons, same.summary_eq, ih]
  · have unchanged : ∀ ops, List.Forall₂ Operation.Alike ops ops := fun ops =>
      List.forall₂_same.2 fun op _ => .refl op
    have same : Operation.Alike (.prepare runner (job.withVariables vs))
        (.prepare runner (job.withVariables ws)) :=
      .prepare (Variables.alike_of_visible visible)
    exact observed_history connect c w
      (List.rel_append (unchanged before) (.cons same (unchanged after))) (.refl x)

open Sample in
/-- Of two jobs one has other secrets than the other: a variable that is masked, though it is
public, has another value and another place, and a hidden one is missing.  They are run alike, and
have their pod. -/
theorem sample_secrets :
    let key (value : String) : Variable := ⟨"KEY", value, true, false, true⟩
    let vs : Variables := [key "1", .ofPublic "CI" "true", .ofSecret "TOKEN" "5678"]
    let ws : Variables := [.ofPublic "CI" "true", key "2"]
    let ops := [.prepare runner (job.withVariables vs), .run step none, .run step none]
    let ops' := [.prepare runner (job.withVariables ws), .run step none, .run step none]
    vs.filter Variable.visible = ws.filter Variable.visible ∧
      List.Forall₂ Operation.Alike ops ops' ∧
      (trial ops).map Moment.observed = (trial ops').map Moment.observed ∧
      ops.map Operation.summary? = ops'.map Operation.summary? ∧
      created (log (trial ops')) = [⟨"1", "ci"⟩] := by
  intro key vs ws ops ops'
  have visible : vs.filter Variable.visible = ws.filter Variable.visible := by decide
  have alike : (job.withVariables vs).variables.Alike ws := Variables.alike_of_visible visible
  have same : List.Forall₂ Operation.Alike ops ops' :=
    .cons (.prepare alike) (.cons .run (.cons .run .nil))
  obtain ⟨unobserved, anywhere⟩ := secrets_unobserved (fun _ => .ok ()) cluster {} (fresh true)
  refine ⟨visible, same, ?_, (unobserved ops ops' same).2, by decide +kernel⟩
  exact anywhere [] [.run step none, .run step none] runner job vs ws visible

end Executor

end PodRunner
