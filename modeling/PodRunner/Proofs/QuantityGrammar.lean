import Mathlib
import PodRunner.Proofs.Trimming
import PodRunner.Quantity

/-!
# The grammar of quantities

A quantity is a sign, a mantissa and a suffix (`Quantity.Parts`), and it is so in one way only
(`Quantity.written_iff`): a mantissa is all digits and points, and no suffix begins with one, so the
parts are those into which `Quantity.split` cuts the text (`Quantity.Parts.split_eq`).  The check on
these parts accepts exactly the quantities (`Quantity.shaped_iff`).
-/

namespace PodRunner

namespace Quantity

/-! ## The grammar -/

/-- Decimal digits, and at least one of them. -/
structure Digits (s : List Char) : Prop where
  ne_nil : s ≠ []
  digit : ∀ c ∈ s, c.isDigit

inductive Sign : List Char → Prop
  | none : Sign []
  | plus : Sign ['+']
  | minus : Sign ['-']

inductive Mantissa : List Char → Prop
  | whole {ds : List Char} : Digits ds → Mantissa ds
  | point {ds fs : List Char} : Digits ds → (∀ c ∈ fs, c.isDigit) → Mantissa (ds ++ '.' :: fs)
  | fraction {fs : List Char} : Digits fs → Mantissa ('.' :: fs)

def scaleNames : List String :=
  ["Ki", "Mi", "Gi", "Ti", "Pi", "Ei", "n", "u", "m", "k", "M", "G", "T", "P", "E"]

inductive Suffix : List Char → Prop
  | none : Suffix []
  | scale {x : String} : x ∈ scaleNames → Suffix x.toList
  | exponent {e : Char} {sign ds : List Char} : e = 'e' ∨ e = 'E' → Sign sign → Digits ds →
    Suffix (e :: (sign ++ ds))

/-- The text is made of this sign, this mantissa and this suffix. -/
structure Parts (s sign m x : List Char) : Prop where
  whole : s = sign ++ (m ++ x)
  sign : Sign sign
  mantissa : Mantissa m
  suffix : Suffix x

/-- The text is a quantity. -/
def Written (s : List Char) : Prop := ∃ sign m x, Parts s sign m x

variable {s sign m x rest : List Char} {c : Char}

/-! ## Signs -/

theorem isSign_iff : isSign c ↔ c = '+' ∨ c = '-' := by
  simp [isSign]

theorem not_isSign_of_isMantissaChar (h : isMantissaChar c) : ¬ isSign c := by
  intro sign
  rcases isSign_iff.1 sign with rfl | rfl <;> revert h <;> decide

theorem isMantissaChar_of_isDigit (h : c.isDigit) : isMantissaChar c := by
  simp [isMantissaChar, h]

theorem sign_splitSign (s : List Char) :
    s = (splitSign s).1 ++ (splitSign s).2 ∧ Sign (splitSign s).1 := by
  cases s with
  | nil => exact ⟨rfl, .none⟩
  | cons c s =>
    by_cases sign : isSign c
    · rcases isSign_iff.1 sign with rfl | rfl
      · exact ⟨rfl, .plus⟩
      · exact ⟨rfl, .minus⟩
    · have bare : splitSign (c :: s) = ([], c :: s) := if_neg sign
      rw [bare]
      exact ⟨rfl, .none⟩

/-- A sign is cut off where no second one follows. -/
theorem Sign.splitSign_append (h : Sign sign) (bare : ∀ c ∈ rest.head?, ¬ isSign c) :
    splitSign (sign ++ rest) = (sign, rest) := by
  cases h with
  | none =>
    cases rest with
    | nil => rfl
    | cons c rest => simp [splitSign, bare c rfl]
  | plus => rfl
  | minus => rfl

theorem Digits.head_isDigit (h : Digits s) : ∀ c ∈ s.head?, c.isDigit :=
  fun c hc => h.digit c (List.mem_of_mem_head? hc)

/-! ## Mantissas -/

theorem digits_iff : digits s = true ↔ Digits s := by
  constructor
  · intro h
    have parts : s ≠ [] ∧ ∀ c ∈ s, c.isDigit := by simpa [digits] using h
    exact ⟨parts.1, parts.2⟩
  · intro h
    simpa [digits, h.ne_nil] using h.digit

theorem Mantissa.ne_nil (h : Mantissa m) : m ≠ [] := by
  cases h with
  | whole h => exact h.ne_nil
  | point | fraction => simp

theorem Mantissa.isMantissaChar (h : Mantissa m) : ∀ c ∈ m, isMantissaChar c := by
  have point : Quantity.isMantissaChar '.' := by decide
  intro c hc
  cases h with
  | whole h => exact isMantissaChar_of_isDigit (h.digit c hc)
  | point hd hf =>
    rcases List.mem_append.1 hc with hc | hc
    · exact isMantissaChar_of_isDigit (hd.digit c hc)
    · rcases List.mem_cons.1 hc with rfl | hc
      · exact point
      · exact isMantissaChar_of_isDigit (hf c hc)
  | fraction h =>
    rcases List.mem_cons.1 hc with rfl | hc
    · exact point
    · exact isMantissaChar_of_isDigit (h.digit c hc)

theorem not_isDigit_point (fs : List Char) : ∀ c ∈ ('.' :: fs).head?, ¬ c.isDigit := by
  intro c hc
  cases hc
  decide

theorem mantissa_iff : mantissa m = true ↔ Mantissa m := by
  constructor
  · intro h
    have whole : m.takeWhile Char.isDigit ++ m.dropWhile Char.isDigit = m :=
      List.takeWhile_append_dropWhile
    have all : ∀ c ∈ m.takeWhile Char.isDigit, c.isDigit := fun c hc => List.mem_takeWhile_imp hc
    unfold mantissa at h
    rw [← whole]
    generalize m.takeWhile Char.isDigit = ds at h all
    cases ds with
    | nil =>
      split at h
      · cases h
      · next fs after =>
        rw [after]
        exact .fraction (digits_iff.1 h)
      · cases h
    | cons d ds =>
      have some : Digits (d :: ds) := ⟨by simp, all⟩
      split at h
      · next after =>
        rw [after, List.append_nil]
        exact .whole some
      · next fs after =>
        rw [after]
        exact .point some (by simpa using h)
      · cases h
  · intro h
    unfold mantissa
    cases h with
    | whole h =>
      have taken : m.takeWhile Char.isDigit = m := List.takeWhile_eq_self_iff.2 h.digit
      have dropped : m.dropWhile Char.isDigit = [] := List.dropWhile_eq_nil_iff.2 h.digit
      rw [taken, dropped]
      simpa using h.ne_nil
    | point hd hf =>
      rw [Blank.takeWhile_append hd.digit (not_isDigit_point _),
        Blank.dropWhile_append hd.digit (not_isDigit_point _)]
      simpa [hd.ne_nil] using hf
    | fraction h => exact digits_iff.2 h

/-! ## Suffixes -/

theorem exponent_iff : exponent x = true ↔
    ∃ e sign ds, x = e :: (sign ++ ds) ∧ (e = 'e' ∨ e = 'E') ∧ Sign sign ∧ Digits ds := by
  constructor
  · intro h
    cases x with
    | nil => cases h
    | cons e x =>
      have parts : (e = 'e' ∨ e = 'E') ∧ digits (splitSign x).2 = true := by
        simpa [exponent] using h
      obtain ⟨whole, sign⟩ := sign_splitSign x
      exact ⟨e, _, _, congrArg (e :: ·) whole, parts.1, sign, digits_iff.1 parts.2⟩
  · rintro ⟨e, sign, ds, rfl, letter, hs, hd⟩
    have bare : ∀ c ∈ ds.head?, ¬ isSign c := fun c hc =>
      not_isSign_of_isMantissaChar (isMantissaChar_of_isDigit (hd.head_isDigit c hc))
    simp [exponent, hs.splitSign_append bare, digits_iff.2 hd, letter]

theorem suffix_cases : Suffix x ↔ x = [] ∨ x ∈ scales ∨ exponent x = true := by
  have scale : x ∈ scales ↔ ∃ y ∈ scaleNames, y.toList = x := List.mem_map
  constructor
  · intro h
    cases h with
    | none => exact .inl rfl
    | scale hy => exact .inr (.inl (scale.2 ⟨_, hy, rfl⟩))
    | exponent letter hs hd => exact .inr (.inr (exponent_iff.2 ⟨_, _, _, rfl, letter, hs, hd⟩))
  · rintro (rfl | listed | power)
    · exact .none
    · obtain ⟨y, hy, rfl⟩ := scale.1 listed
      exact .scale hy
    · obtain ⟨e, sign, ds, rfl, letter, hs, hd⟩ := exponent_iff.1 power
      exact .exponent letter hs hd

theorem suffix_iff : suffix x = true ↔ Suffix x := by
  rw [suffix_cases]
  simp [suffix, or_assoc]

/-- No suffix begins with a digit or a point. -/
theorem Suffix.head (h : Suffix x) : ∀ c ∈ x.head?, ¬ isMantissaChar c := by
  intro c hc
  cases h with
  | none => cases hc
  | scale hy =>
    have letters : ∀ y ∈ scaleNames, ∀ c ∈ y.toList.head?, ¬ isMantissaChar c := by
      simp [scaleNames, isMantissaChar]
    exact letters _ hy c hc
  | exponent letter =>
    cases hc
    rcases letter with rfl | rfl <;> decide

/-! ## The one way to part a quantity -/

/-- The parts of a quantity are those into which it is split. -/
theorem Parts.split_eq (h : Parts s sign m x) : split s = (sign, m, x) := by
  have bare : ∀ c ∈ (m ++ x).head?, ¬ isSign c := by
    rw [List.head?_append_of_ne_nil _ h.mantissa.ne_nil]
    intro c hc
    exact not_isSign_of_isMantissaChar
      (h.mantissa.isMantissaChar c (List.mem_of_mem_head? hc))
  have taken : (m ++ x).takeWhile isMantissaChar = m :=
    Blank.takeWhile_append h.mantissa.isMantissaChar h.suffix.head
  have dropped : (m ++ x).dropWhile isMantissaChar = x :=
    Blank.dropWhile_append h.mantissa.isMantissaChar h.suffix.head
  simp only [split, h.whole, h.sign.splitSign_append bare, taken, dropped]

theorem parts_split (s : List Char) :
    s = (split s).1 ++ ((split s).2.1 ++ (split s).2.2) ∧ Sign (split s).1 := by
  obtain ⟨whole, sign⟩ := sign_splitSign s
  refine ⟨?_, sign⟩
  simp only [split, List.takeWhile_append_dropWhile]
  exact whole

theorem shaped_iff : shaped s = true ↔ Written s := by
  have both : shaped s = true ↔ Mantissa (split s).2.1 ∧ Suffix (split s).2.2 := by
    rw [← mantissa_iff, ← suffix_iff, shaped, Bool.and_eq_true]
  rw [both]
  constructor
  · rintro ⟨hm, hx⟩
    obtain ⟨whole, sign⟩ := parts_split s
    exact ⟨_, _, _, whole, sign, hm, hx⟩
  · rintro ⟨sign, m, x, parts⟩
    rw [parts.split_eq]
    exact ⟨parts.mantissa, parts.suffix⟩

instance : DecidablePred Written := fun _ => decidable_of_iff _ shaped_iff

example : Written "1E".toList ∧ Written "1E3".toList ∧ Written "1.Ei".toList ∧
    ¬ Written "1e".toList := by
  decide +kernel

theorem written_iff : Written s ↔
    ∃! parts : List Char × List Char × List Char, Parts s parts.1 parts.2.1 parts.2.2 := by
  constructor
  · rintro ⟨sign, m, x, parts⟩
    exact ⟨(sign, m, x), parts, fun other h => h.split_eq.symm.trans parts.split_eq⟩
  · rintro ⟨⟨sign, m, x⟩, parts, -⟩
    exact ⟨sign, m, x, parts⟩

end Quantity

end PodRunner
