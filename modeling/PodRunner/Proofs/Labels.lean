import PodRunner.Proofs.Description
import PodRunner.Proofs.Trimming

/-!
# The values of labels

Any text can be brought into the form of a label's value (`Label.IsValue`): characters that do not
belong there are replaced, then what is too long is cut off, and then the ends are trimmed.
Trimming comes last, so nothing spoils the ends again, and it takes away no more than it must: a
text that has the form is left alone, and one that holds a letter or digit before the cut is not
lost (`Label.sanitize_decides`).
-/

namespace PodRunner.Label

variable {s : List Char} {c : Char}

/-- The characters of labels. -/
def InAlphabet (c : Char) : Prop := c.isAlphanum ∨ c = '-' ∨ c = '_' ∨ c = '.'

instance (c : Char) : Decidable (InAlphabet c) := inferInstanceAs (Decidable (_ ∨ _))

/-- The value of a label: at most 63 letters, digits, dashes, underscores and points, with a letter
or digit at either end; or nothing. -/
structure IsValue (s : List Char) : Prop where
  short : s.length ≤ 63
  alphabet : ∀ c ∈ s, InAlphabet c
  head : ∀ c ∈ s.head?, c.isAlphanum
  last : ∀ c ∈ s.getLast?, c.isAlphanum

/-! ## Characters -/

theorem isLetterOrDigit_eq (c : Char) : isLetterOrDigit c = c.isAlphanum := by
  rw [Bool.eq_iff_iff]
  simp only [isLetterOrDigit, Char.isAlphanum, Char.isAlpha, Char.isUpper, Char.isLower,
    Char.isDigit, Bool.or_eq_true, Bool.and_eq_true, decide_eq_true_eq, Char.le_def]
  exact or_congr_left or_comm

theorem clean_of_inAlphabet (h : InAlphabet c) : clean c = c := by
  rw [clean, isLetterOrDigit_eq, if_pos]
  simpa [InAlphabet, or_assoc] using h

theorem clean_of_other (h : ¬ InAlphabet c) : clean c = '-' := by
  rw [clean, isLetterOrDigit_eq, if_neg]
  simpa [InAlphabet, or_assoc] using h

theorem inAlphabet_clean (c : Char) : InAlphabet (clean c) := by
  by_cases h : InAlphabet c
  · rwa [clean_of_inAlphabet h]
  · rw [clean_of_other h]
    decide

/-- Replacing characters makes and takes away no letters and digits. -/
theorem isAlphanum_clean (c : Char) : (clean c).isAlphanum = c.isAlphanum := by
  by_cases h : InAlphabet c
  · rw [clean_of_inAlphabet h]
  · have other : c.isAlphanum = false := Bool.eq_false_iff.2 fun kept => h (.inl kept)
    rw [clean_of_other h, other]
    decide

/-- What is trimmed is what is neither a letter nor a digit. -/
theorem not_isLetterOrDigit_iff : (!isLetterOrDigit c) = true ↔ ¬ c.isAlphanum := by
  rw [isLetterOrDigit_eq, Bool.not_eq_true', Bool.not_eq_true]

/-! ## Texts -/

theorem isValue_sanitize (s : List Char) : IsValue (sanitize s) := by
  have padded := Blank.padded_trimWhile (fun c => !isLetterOrDigit c) ((s.take 63).map clean)
  obtain ⟨front, back, split, -, -⟩ := padded.around
  have part : sanitize s <:+: (s.take 63).map clean := ⟨front, back, split.symm⟩
  exact {
    short := by
      have := part.length_le
      rw [List.length_map, List.length_take] at this
      omega
    alphabet := by
      intro c hc
      obtain ⟨d, -, rfl⟩ := List.mem_map.1 (part.subset hc)
      exact inAlphabet_clean d
    head := fun c hc => not_not.1 (mt not_isLetterOrDigit_iff.2 (padded.head c hc))
    last := fun c hc => not_not.1 (mt not_isLetterOrDigit_iff.2 (padded.last c hc)) }

theorem IsValue.sanitize_eq (h : IsValue s) : sanitize s = s := by
  have cleaned : (s.take 63).map clean = s := by
    rw [List.take_of_length_le h.short]
    exact (List.map_congr_left fun c hc => clean_of_inAlphabet (h.alphabet c hc)).trans
      (List.map_id' s)
  have padded : Blank.Padded (fun c => !isLetterOrDigit c) s s := Blank.padded_self
    (fun c hc trimmed => not_isLetterOrDigit_iff.1 trimmed (h.head c hc))
    (fun c hc trimmed => not_isLetterOrDigit_iff.1 trimmed (h.last c hc))
  rw [sanitize, cleaned, padded.trimWhile_eq]

theorem sanitize_eq_nil_iff : sanitize s = [] ↔ ∀ c ∈ s.take 63, ¬ c.isAlphanum := by
  rw [sanitize, Blank.trimWhile_eq_nil_iff, List.forall_mem_map]
  refine forall₂_congr fun c _ => ?_
  rw [not_isLetterOrDigit_iff, isAlphanum_clean]

/-- The label that names the runner of a pod. -/
theorem field?_runner (p : Prepared) :
    (((p.podSpec.toValue Container.toValue).get "metadata").get "labels").field?
      "kube-executor/runner" = some (.text (String.ofList (sanitize p.runner.name.toList))) := by
  have labels : p.podSpec.metadata.get "labels" =
      .ofFields (p.labels.map fun l => (l.1, .text l.2)) := by
    rw [PodSpec.metadata, Value.get_ofFields]
    rfl
  rw [PodSpec.get_metadata, labels, Value.field?_ofFields]
  rfl

/-- Whatever the name of a runner is, the label that pods have for it is the value of a label.  It
is the name itself if that has the form of a value, so that bringing a text into the form twice is
bringing it there once, and it is nothing if and only if the name has no letter and no digit among
its first 63 characters. -/
theorem sanitize_decides (name : String) :
    let value := sanitize name.toList
    IsValue value ∧ (IsValue name.toList → value = name.toList) ∧ sanitize value = value ∧
    (value = [] ↔ ∀ c ∈ name.toList.take 63, ¬ c.isAlphanum) ∧
    ∀ p : Prepared, (((p.podSpec.toValue Container.toValue).get "metadata").get "labels").field?
      "kube-executor/runner" = some (.text (String.ofList (sanitize p.runner.name.toList))) :=
  have legal := isValue_sanitize name.toList
  ⟨legal, IsValue.sanitize_eq, legal.sanitize_eq, sanitize_eq_nil_iff, field?_runner⟩

/-- A name with points and dashes that is left alone, and one of which nothing is left. -/
theorem sample_sanitize_decides :
    sanitize "k8s-runner_1.ci".toList = "k8s-runner_1.ci".toList ∧ sanitize "-.é".toList = [] :=
  ⟨(sanitize_decides "k8s-runner_1.ci").2.1
      ⟨by decide, by simp [InAlphabet], by simp, by simp⟩,
    (sanitize_decides "-.é").2.2.2.1.2 (by simp)⟩

/-- A point and a letter with an accent come to stand at the end when the name is cut, and are
trimmed away. -/
example : sanitize ((List.replicate 61 'a') ++ ".é+b".toList) = List.replicate 61 'a' := by
  decide +kernel

end PodRunner.Label
