import PodRunner.Proofs.Privilege

/-!
# The environment of containers

A container is told the declarations that it may see, in declared order (`Variables.Lists`).  What
it is told last of a key is what looking the key up gives, whenever the last declaration of the key
is one that it may see (`Container.Agrees`).  Both sides are compatible with putting lists of
declarations one after the other (`Variables.environment_agrees`).
-/

namespace PodRunner

/-- Containers may see the declaration. -/
def Variable.Shown (v : Variable) : Prop :=
  v.masked = false ∧ (v.isPublic = true ∨ v.isInternal = true)

instance (v : Variable) : Decidable v.Shown := inferInstanceAs (Decidable (_ ∧ _))

theorem Variable.exported_iff {v : Variable} : v.exported = true ↔ v.Shown := by
  rw [exported, Bool.and_eq_true, Bool.not_eq_true', Bool.or_eq_true]
  rfl

namespace Variables

variable {vs a b : Variables} {key : String} {v : Variable}

/-! ## Lists of declarations -/

/-- The entries are those of the declarations that containers may see, in declared order. -/
inductive Lists : Variables → List (String × String) → Prop
  | nil : Lists [] []
  | shown {v : Variable} {vs : Variables} {es : List (String × String)} : v.Shown → Lists vs es →
    Lists (v :: vs) ((v.key, v.value) :: es)
  | hidden {v : Variable} {vs : Variables} {es : List (String × String)} : ¬ v.Shown →
    Lists vs es → Lists (v :: vs) es

theorem foldl_push (initial pushed : Variables) :
    pushed.foldl push initial = initial ++ pushed := by
  induction pushed generalizing initial with
  | nil => exact (List.append_nil _).symm
  | cons v pushed ih => rw [List.foldl_cons, ih, push, List.append_assoc, List.singleton_append]

theorem lists_exported (vs : Variables) : vs.Lists (vs.exported.map fun v => (v.key, v.value)) := by
  induction vs with
  | nil => exact .nil
  | cons v vs ih =>
    by_cases shown : v.exported
    · rw [exported, List.filter_cons_of_pos shown]
      exact .shown (Variable.exported_iff.1 shown) ih
    · rw [exported, List.filter_cons_of_neg shown]
      exact .hidden (mt Variable.exported_iff.2 shown) ih

theorem mem_exported : v ∈ vs.exported ↔ v ∈ vs ∧ v.Shown := by
  rw [exported, List.mem_filter, Variable.exported_iff]

theorem exported_append (a b : Variables) : exported (a ++ b) = exported a ++ exported b :=
  List.filter_append ..

/-! ## Looking up -/

theorem get?_eq_none_iff : vs.get? key = none ↔ ∀ v ∈ vs, v.key ≠ key := by
  simp [get?]

theorem get?_append (a b : Variables) (key : String) :
    get? (a ++ b) key = (get? b key).or (get? a key) := by
  rw [get?, List.reverse_append, List.find?_append, Option.map_or]
  rfl

theorem get?_append_of_declared (declared : ∃ v ∈ b, v.key = key) :
    get? (a ++ b) key = get? b key := by
  rw [get?_append]
  cases found : get? b key with
  | some value => rfl
  | none =>
    obtain ⟨v, hv, same⟩ := declared
    exact absurd same (get?_eq_none_iff.1 found v hv)

theorem get?_append_of_undeclared (undeclared : ∀ v ∈ b, v.key ≠ key) :
    get? (a ++ b) key = get? a key := by
  rw [get?_append, get?_eq_none_iff.2 undeclared, Option.none_or]

/-- Only a declaration of the one key can change whether the job asks for privilege. -/
theorem privileged_push_of_ne (other : v.key ≠ privilegedKey) :
    (vs.push v).privileged = vs.privileged := by
  rw [privileged, privileged, push, get?_append_of_undeclared]
  exact fun u hu => List.mem_singleton.1 hu ▸ other

end Variables

/-! ## Containers -/

/-- The last entry with this name has this value. -/
def LastEntry (es : List (String × String)) (name value : String) : Prop :=
  ∃ earlier later, es = earlier ++ (name, value) :: later ∧ ∀ e ∈ later, e.1 ≠ name

/-- The container is told the declarations that it may see and no others, and is told it so that the
last entry of a name is what looking the name up gives, if the last declaration is one that it may
see. -/
structure Container.Agrees (k : Container) (vs : Variables) : Prop where
  lists : vs.Lists k.environment
  written : k.toValue.field? "env" = some (.list (k.environment.map fun e =>
    .ofFields [("name", .text e.1), ("value", .text e.2)]))
  last : ∀ key v, vs.IsLast key v → v.Shown →
    ∃ value, vs.get? key = some value ∧ LastEntry k.environment key value
  absent : ∀ key, (∀ v ∈ vs, v.key = key → ¬ v.Shown) → ∀ e ∈ k.environment, e.1 ≠ key

namespace Variables

variable {vs : Variables} {key : String} {v : Variable}

theorem IsLast.lastEntry (h : vs.IsLast key v) (shown : v.Shown) :
    LastEntry (vs.exported.map fun v => (v.key, v.value)) key v.value := by
  obtain ⟨earlier, later, rfl, rfl, last⟩ := h
  refine ⟨(exported earlier).map fun v => (v.key, v.value),
    (exported later).map fun v => (v.key, v.value), ?_, ?_⟩
  · have kept : exported (v :: later) = v :: exported later :=
      List.filter_cons_of_pos (Variable.exported_iff.2 shown)
    rw [exported_append, kept, List.map_append, List.map_cons]
  · intro e he
    obtain ⟨u, hu, rfl⟩ := List.mem_map.1 he
    exact last u (mem_exported.1 hu).1

theorem agrees_container (w : Workspace) (name image : String) (limits : Limits)
    (command : List String) : (w.container name image limits command).Agrees w.variables where
  lists := lists_exported w.variables
  written := by
    rw [(@Container.shares_toValue _ w.variables rfl).environment, Workspace.container,
      List.map_map]
    rfl
  last _ v h shown := ⟨v.value, get?_eq_some_iff.2 ⟨v, h, rfl⟩, h.lastEntry shown⟩
  absent key hidden e he := by
    obtain ⟨v, hv, rfl⟩ := List.mem_map.1 he
    obtain ⟨declared, shown⟩ := mem_exported.1 hv
    exact fun same => hidden v declared same shown

/-- However a list of variables came to be, every container built from it is told the declarations
that it may see, in agreement with looking variables up.  Of two lists, one after the other, a
container is told first what it is told of the first list, and then what it is told of the second;
looking up goes the other way, so that declarations of other keys change nothing. -/
theorem environment_agrees (initial pushed : Variables) :
    let vs := pushed.foldl push initial
    vs = initial ++ pushed ∧
    (∀ (dir : String) (privileged : Bool) (name image : String) (limits : Limits)
        (command : List String),
      ((Workspace.mk dir vs privileged).container name image limits command).Agrees vs) ∧
    (∀ (a b : Variables) (dir : String) (privileged : Bool) (name image : String)
        (limits : Limits) (command : List String),
      let environment (vs : Variables) :=
        ((Workspace.mk dir vs privileged).container name image limits command).environment
      environment (a ++ b) = environment a ++ environment b) ∧
    (∀ (a b : Variables) (key : String),
      ((∃ v ∈ b, v.key = key) → get? (a ++ b) key = get? b key) ∧
      ((∀ v ∈ b, v.key ≠ key) → get? (a ++ b) key = get? a key)) ∧
    ∀ v : Variable, v.key ≠ "KUBERNETES_PRIVILEGED" → (vs.push v).privileged = vs.privileged := by
  refine ⟨foldl_push initial pushed, fun _ _ _ _ _ _ => agrees_container _ _ _ _ _,
    fun a b _ _ _ _ _ _ => ?_, fun a b key => ⟨get?_append_of_declared, get?_append_of_undeclared⟩,
    fun v other => privileged_push_of_ne other⟩
  exact (congrArg _ (exported_append a b)).trans (List.map_append ..)

/-- Of a key that is declared in public, as a secret and as a variable of the system, containers
are told what was declared last; of one that is masked, although it is public, they are told
nothing. -/
theorem sample_environment_agrees :
    let pushed : Variables :=
      [.ofSecret "A" "2", ⟨"B", "x", true, false, true⟩, .ofInternal "A" "3"]
    let vs := pushed.foldl push [.ofPublic "A" "1"]
    let k := (Workspace.mk "/builds/5" vs false).container "build" "ruby:2.3" {} ["sh"]
    LastEntry k.environment "A" "3" ∧ vs.get? "A" = some "3" ∧ ∀ e ∈ k.environment, e.1 ≠ "B" := by
  intro pushed vs k
  have agrees := (environment_agrees [.ofPublic "A" "1"] pushed).2.1 "/builds/5" false "build"
    "ruby:2.3" {} ["sh"]
  obtain ⟨value, found, last⟩ := agrees.last "A" (.ofInternal "A" "3") ⟨_, [], rfl, rfl, nofun⟩
    ⟨rfl, .inr rfl⟩
  cases found
  exact ⟨last, rfl, agrees.absent "B" (by decide)⟩

end Variables

end PodRunner
