import PodRunner.Proofs.Images

/-!
# Runners of a configuration

Runners are sound if each of them has a name of its own and settings of a cluster that pods can be
placed in (`Config.Sound`).  The runners of a configuration are checked one by one against the names
before them, so what is reported is the fault of the first one that is not sound together with those
before it (`Config.Offends`).  In an accepted configuration each runner is found by its name, in
whatever order they are listed (`Config.validate_decides`).
-/

namespace PodRunner

namespace ClusterSettings

variable {s : ClusterSettings}

theorem validate_eq_ok_iff : s.validate = .ok () ↔ s.fault? = none := by
  unfold validate
  cases s.fault? <;> simp

theorem validate_eq_error_iff {f : ConfigFault} :
    s.validate = .error (.config f) ↔ s.fault? = some f := by
  unfold validate
  cases s.fault? <;> simp

end ClusterSettings

namespace Config

/-- Runners that jobs can be given to by name. -/
structure Sound (runners : List Runner) : Prop where
  named : ∀ r ∈ runners, Visible r.name
  distinct : (runners.map Runner.name).Nodup
  settings : ∀ r ∈ runners, r.cluster.validate = .ok ()

/-- What is wrong with a runner that comes after others of the names `seen`. -/
inductive Offends (seen : List String) (r : Runner) : ConfigFault → Prop
  | unnamed : ¬ Visible r.name → Offends seen r .blankRunnerName
  | repeated : Visible r.name → r.name ∈ seen → Offends seen r (.duplicateRunner r.name)
  | settings {f : ConfigFault} : Visible r.name → r.name ∉ seen →
      r.cluster.validate = .error (.config f) → Offends seen r f

/-- The fault of the first runner that is not sound together with those before it. -/
def FirstOffence (runners : List Runner) (f : ConfigFault) : Prop :=
  ∃ earlier r later, runners = earlier ++ r :: later ∧ Sound earlier ∧
    Offends (earlier.map Runner.name) r f

variable {c : Config} {runners earlier : List Runner} {r : Runner} {seen : List String}
variable {f : ConfigFault} {name : String}

/-! ## One runner -/

theorem runnerFault?_eq_none_iff : runnerFault? seen r = none ↔
    Visible r.name ∧ r.name ∉ seen ∧ r.cluster.validate = .ok () := by
  unfold runnerFault?
  rw [visible_iff, ClusterSettings.validate_eq_ok_iff]
  split_ifs <;> simp [*]

theorem runnerFault?_eq_some_iff : runnerFault? seen r = some f ↔ Offends seen r f := by
  unfold runnerFault?
  constructor
  · intro found
    split_ifs at found with blank known
    · cases found
      exact .unnamed fun visible => visible_iff.1 visible blank
    · cases found
      exact .repeated (visible_iff.2 blank) known
    · exact .settings (visible_iff.2 blank) known (ClusterSettings.validate_eq_error_iff.2 found)
  · rintro (unnamed | ⟨visible, known⟩ | ⟨visible, new, fault⟩)
    · rw [if_pos (not_not.1 fun blank => unnamed (visible_iff.2 blank))]
    · rw [if_neg (visible_iff.1 visible), if_pos known]
    · rw [if_neg (visible_iff.1 visible), if_neg new]
      exact ClusterSettings.validate_eq_error_iff.1 fault

/-! ## All runners -/

/-- A runner is checked against the names of those before it. -/
theorem runnersFault?_append (seen : List String) (earlier later : List Runner) :
    runnersFault? seen (earlier ++ later) =
      (runnersFault? seen earlier).or
        (runnersFault? ((earlier.map Runner.name).reverse ++ seen) later) := by
  induction earlier generalizing seen with
  | nil => rfl
  | cons r earlier ih =>
    simp only [List.cons_append, runnersFault?]
    cases runnerFault? seen r with
    | some f => rfl
    | none =>
      simp only [ih, List.map_cons, List.reverse_cons, List.append_assoc, List.singleton_append]

theorem runnersFault?_append_cons (earlier later : List Runner) (r : Runner) :
    runnersFault? [] (earlier ++ r :: later) =
      (runnersFault? [] earlier).or ((runnerFault? (earlier.map Runner.name) r).or
        (runnersFault? (r.name :: (earlier.map Runner.name).reverse) later)) := by
  have order : runnerFault? (earlier.map Runner.name).reverse r =
      runnerFault? (earlier.map Runner.name) r := by
    simp only [runnerFault?, List.mem_reverse]
  rw [runnersFault?_append, List.append_nil, runnersFault?, order]
  cases runnerFault? (earlier.map Runner.name) r <;> rfl

theorem sound_append_singleton : Sound (earlier ++ [r]) ↔
    Sound earlier ∧ Visible r.name ∧ r.name ∉ earlier.map Runner.name ∧
      r.cluster.validate = .ok () := by
  constructor
  · rintro ⟨named, distinct, settings⟩
    rw [List.forall_mem_append, List.forall_mem_singleton] at named settings
    rw [List.map_append, List.map_singleton, ← List.concat_eq_append, List.nodup_concat] at distinct
    exact ⟨⟨named.1, distinct.2, settings.1⟩, named.2, distinct.1, settings.2⟩
  · rintro ⟨⟨named, distinct, settings⟩, visible, new, valid⟩
    refine ⟨?_, ?_, ?_⟩
    · exact List.forall_mem_append.2 ⟨named, List.forall_mem_singleton.2 visible⟩
    · rw [List.map_append, List.map_singleton, ← List.concat_eq_append, List.nodup_concat]
      exact ⟨new, distinct⟩
    · exact List.forall_mem_append.2 ⟨settings, List.forall_mem_singleton.2 valid⟩

theorem runnersFault?_eq_none_iff : runnersFault? [] runners = none ↔ Sound runners := by
  -- By induction from the end, as each runner is checked against all those before it.
  induction runners using List.reverseRecOn with
  | nil =>
    have sound : Sound [] := ⟨by simp, List.nodup_nil, by simp⟩
    exact iff_of_true rfl sound
  | append_singleton earlier r ih =>
    rw [runnersFault?_append_cons, runnersFault?, Option.or_none, Option.or_eq_none_iff, ih,
      runnerFault?_eq_none_iff, sound_append_singleton]

theorem runnersFault?_eq_some_iff : runnersFault? [] runners = some f ↔ FirstOffence runners f := by
  constructor
  · intro found
    induction runners using List.reverseRecOn with
    | nil => cases found
    | append_singleton runners last ih =>
      rw [runnersFault?_append_cons, runnersFault?, Option.or_none, Option.or_eq_some_iff] at found
      rcases found with before | ⟨none_before, here⟩
      · obtain ⟨earlier, r, later, rfl, sound, offends⟩ := ih before
        exact ⟨earlier, r, later ++ [last], by simp, sound, offends⟩
      · exact ⟨runners, last, [], rfl, runnersFault?_eq_none_iff.1 none_before,
          runnerFault?_eq_some_iff.1 here⟩
  · rintro ⟨earlier, r, later, rfl, sound, offends⟩
    rw [runnersFault?_append_cons, runnersFault?_eq_none_iff.2 sound,
      runnerFault?_eq_some_iff.2 offends]
    rfl

/-! ## Looking up -/

theorem mem_of_runner? (found : c.runner? name = some r) : r ∈ c.runners ∧ r.name = name := by
  unfold runner? at found
  have named := List.find?_some found
  exact ⟨List.mem_of_find?_eq_some found, of_decide_eq_true named⟩

theorem runner?_eq_some_iff (distinct : (c.runners.map Runner.name).Nodup) :
    c.runner? name = some r ↔ r ∈ c.runners ∧ r.name = name := by
  refine ⟨mem_of_runner?, ?_⟩
  rintro ⟨listed, rfl⟩
  obtain ⟨r', found⟩ : ∃ r', c.runner? r.name = some r' := by
    rw [← Option.isSome_iff_exists, runner?, List.find?_isSome]
    exact ⟨r, listed, decide_eq_true rfl⟩
  obtain ⟨listed', named⟩ := mem_of_runner? found
  rw [found, List.inj_on_of_nodup_map distinct listed' listed named]

theorem Sound.perm (h : Sound earlier) (order : runners.Perm earlier) : Sound runners where
  named r hr := h.named r (order.mem_iff.1 hr)
  distinct := (order.map Runner.name).nodup_iff.2 h.distinct
  settings r hr := h.settings r (order.mem_iff.1 hr)

/-- The order in which runners are listed makes no difference to looking them up. -/
theorem runner?_perm (distinct : (c.runners.map Runner.name).Nodup)
    (order : runners.Perm c.runners) (name : String) :
    Config.runner? { c with runners } name = c.runner? name := by
  have distinct' : (runners.map Runner.name).Nodup := (order.map Runner.name).nodup_iff.2 distinct
  refine Option.ext fun r => ?_
  rw [runner?_eq_some_iff distinct, runner?_eq_some_iff distinct']
  exact and_congr_left fun _ => order.mem_iff

/-! ## Configurations -/

theorem validate_eq_ok_iff : c.validate = .ok () ↔ 1 ≤ c.concurrent ∧ Sound c.runners := by
  rw [← runnersFault?_eq_none_iff]
  unfold validate fault?
  split_ifs with idle
  · simp [idle]
  · cases runnersFault? [] c.runners <;> simp [Nat.one_le_iff_ne_zero, idle]

theorem validate_eq_error_iff {e : Error} : c.validate = .error e ↔
    c.concurrent = 0 ∧ e = .config .noConcurrency ∨
      1 ≤ c.concurrent ∧ ∃ f, FirstOffence c.runners f ∧ e = .config f := by
  simp only [← runnersFault?_eq_some_iff]
  unfold validate fault?
  split_ifs with idle
  · simp [idle, eq_comm]
  · cases runnersFault? [] c.runners <;> simp [Nat.one_le_iff_ne_zero, idle, eq_comm]

/-- A configuration is accepted if it lets jobs run and its runners are sound.  Otherwise what is
reported is that it lets no job run, or else the fault of the first runner that is not sound
together with those before it.  In an accepted configuration each runner is found by its name and
nothing else is found, in whatever order the runners are listed. -/
theorem validate_decides (c : Config) :
    (c.validate = .ok () ↔ 1 ≤ c.concurrent ∧ Sound c.runners) ∧
      (∀ e, c.validate = .error e ↔
        c.concurrent = 0 ∧ e = .config .noConcurrency ∨
          1 ≤ c.concurrent ∧ ∃ f, FirstOffence c.runners f ∧ e = .config f) ∧
      (c.validate = .ok () →
        (∀ name r, c.runner? name = some r ↔ r ∈ c.runners ∧ r.name = name) ∧
          ∀ runners, runners.Perm c.runners →
            Config.validate { c with runners } = .ok () ∧
              ∀ name, Config.runner? { c with runners } name = c.runner? name) := by
  refine ⟨validate_eq_ok_iff, fun e => validate_eq_error_iff, fun accepted => ?_⟩
  obtain ⟨allowed, sound⟩ := validate_eq_ok_iff.1 accepted
  refine ⟨fun name r => runner?_eq_some_iff sound.distinct, fun runners order => ?_⟩
  exact ⟨validate_eq_ok_iff.2 ⟨allowed, sound.perm order⟩, runner?_perm sound.distinct order⟩

/-- Two runners whose names differ in white space only are told apart, in either order. -/
theorem sample_runners :
    let c : Config := { runners := [{ name := "r" }, { name := "r ", token := "t" }] }
    let swapped : Config := { c with runners := c.runners.reverse }
    c.validate = .ok () ∧ c.runner? "r " = some { name := "r ", token := "t" } ∧
      swapped.validate = .ok () ∧ swapped.runner? "r " = c.runner? "r " := by
  intro c swapped
  have accepted : c.validate = .ok () := rfl
  obtain ⟨finds, order⟩ := (validate_decides c).2.2 accepted
  obtain ⟨valid, same⟩ := order c.runners.reverse c.runners.reverse_perm
  exact ⟨accepted, (finds _ _).2 ⟨by simp [c], rfl⟩, valid, same "r "⟩

end Config

end PodRunner
