import Mathlib
import PodRunner.Proofs.QuantityGrammar

/-!
# The pattern of quantities

The grammar of quantities is regular.  `Quantity.pattern` is the pattern

    ^[+-]?(?:[0-9]+(?:\.[0-9]*)?|\.[0-9]+)(?:Ki|Mi|Gi|Ti|Pi|Ei|[eE][+-]?[0-9]+|[numkMGTPE])?$

as a regular expression, and it matches a text exactly if the text is a quantity
(`Quantity.mem_pattern_iff`).  What a part of the pattern matches is read off its constructors, so
each part of the grammar has one lemma here.
-/

namespace PodRunner.Quantity

open RegularExpression (char)

variable {s : List Char}

/-! ## Building patterns -/

/-- The pattern `r₁|…|rₙ`. -/
def anyOf (rs : List (RegularExpression Char)) : RegularExpression Char := rs.foldr (· + ·) 0

/-- The pattern `[c₁…cₙ]`. -/
def oneOf (cs : List Char) : RegularExpression Char := anyOf (cs.map char)

/-- The pattern `r?`. -/
def optional (r : RegularExpression Char) : RegularExpression Char := 1 + r

/-- The pattern `r+`. -/
def many1 (r : RegularExpression Char) : RegularExpression Char := r * r.star

/-- The pattern that matches this text only. -/
def literal (s : List Char) : RegularExpression Char := s.foldr (char · * ·) 1

theorem mem_char {c : Char} : s ∈ (char c).matches' ↔ s = [c] := Iff.rfl

theorem mem_anyOf {rs : List (RegularExpression Char)} :
    s ∈ (anyOf rs).matches' ↔ ∃ r ∈ rs, s ∈ r.matches' := by
  induction rs with
  | nil => simp [anyOf]
  | cons r rs ih =>
    have unfolded : s ∈ (anyOf (r :: rs)).matches' ↔ s ∈ r.matches' ∨ s ∈ (anyOf rs).matches' :=
      Language.mem_add _ _ s
    rw [unfolded, ih, List.exists_mem_cons_iff]

theorem mem_oneOf {cs : List Char} : s ∈ (oneOf cs).matches' ↔ ∃ c ∈ cs, s = [c] := by
  simp only [oneOf, mem_anyOf, List.mem_map, exists_exists_and_eq_and, mem_char]

theorem mem_optional {r : RegularExpression Char} :
    s ∈ (optional r).matches' ↔ s = [] ∨ s ∈ r.matches' := Language.mem_add _ _ s

theorem mem_mul {r r' : RegularExpression Char} :
    s ∈ (r * r').matches' ↔ ∃ a ∈ r.matches', ∃ b ∈ r'.matches', a ++ b = s := Language.mem_mul

theorem mem_star_oneOf {cs : List Char} : s ∈ (oneOf cs).star.matches' ↔ ∀ c ∈ s, c ∈ cs := by
  rw [RegularExpression.matches'_star, Language.mem_kstar]
  constructor
  · rintro ⟨pieces, rfl, all⟩ c hc
    obtain ⟨piece, member, hc⟩ := List.mem_flatten.1 hc
    obtain ⟨d, hd, rfl⟩ := mem_oneOf.1 (all piece member)
    rwa [List.mem_singleton.1 hc]
  · intro all
    refine ⟨s.map ([·]), ?_, ?_⟩
    · rw [← List.flatMap_def, List.flatMap_singleton']
    · intro piece member
      obtain ⟨c, hc, rfl⟩ := List.mem_map.1 member
      exact mem_oneOf.2 ⟨c, all c hc, rfl⟩

theorem mem_many1_oneOf {cs : List Char} :
    s ∈ (many1 (oneOf cs)).matches' ↔ s ≠ [] ∧ ∀ c ∈ s, c ∈ cs := by
  rw [many1, mem_mul]
  constructor
  · rintro ⟨head, hhead, tail, htail, rfl⟩
    obtain ⟨c, hc, rfl⟩ := mem_oneOf.1 hhead
    exact ⟨by simp, List.forall_mem_cons.2 ⟨hc, mem_star_oneOf.1 htail⟩⟩
  · rintro ⟨ne_nil, all⟩
    obtain ⟨c, tail, rfl⟩ := List.exists_cons_of_ne_nil ne_nil
    obtain ⟨hc, htail⟩ := List.forall_mem_cons.1 all
    exact ⟨[c], mem_oneOf.2 ⟨c, hc, rfl⟩, tail, mem_star_oneOf.2 htail, rfl⟩

theorem mem_literal {word : List Char} : s ∈ (literal word).matches' ↔ s = word := by
  induction word generalizing s with
  | nil => exact Language.mem_one s
  | cons c word ih =>
    have unfolded : literal (c :: word) = char c * literal word := rfl
    rw [unfolded, mem_mul]
    constructor
    · rintro ⟨head, hhead, tail, htail, rfl⟩
      rw [mem_char.1 hhead, ih.1 htail]
      rfl
    · rintro rfl
      exact ⟨[c], mem_char.2 rfl, word, ih.2 rfl, rfl⟩

/-! ## The parts of the pattern -/

def digit : RegularExpression Char := oneOf "0123456789".toList

def signPattern : RegularExpression Char := optional (oneOf ['+', '-'])

def mantissaPattern : RegularExpression Char :=
  many1 digit * optional (char '.' * digit.star) + char '.' * many1 digit

def exponentPattern : RegularExpression Char := oneOf ['e', 'E'] * (signPattern * many1 digit)

def suffixPattern : RegularExpression Char :=
  optional (anyOf (["Ki", "Mi", "Gi", "Ti", "Pi", "Ei"].map (literal ·.toList)) +
    (exponentPattern + oneOf "numkMGTPE".toList))

def pattern : RegularExpression Char := signPattern * (mantissaPattern * suffixPattern)

theorem isDigit_iff_mem {c : Char} : c.isDigit ↔ c ∈ "0123456789".toList := by
  constructor
  · intro h
    have same : c = Char.ofNat c.toNat := c.ofNat_toNat.symm
    obtain ⟨lower, upper⟩ : 48 ≤ c.toNat ∧ c.toNat ≤ 57 := Char.isDigit_iff_toNat.1 h
    generalize c.toNat = n at same lower upper
    subst same
    interval_cases n <;> decide
  · intro h
    have listed : c ∈ ['0', '1', '2', '3', '4', '5', '6', '7', '8', '9'] := h
    fin_cases listed <;> rfl

theorem mem_digits : s ∈ (many1 digit).matches' ↔ Digits s := by
  rw [digit, mem_many1_oneOf]
  simp only [← isDigit_iff_mem]
  exact ⟨fun h => ⟨h.1, h.2⟩, fun h => ⟨h.ne_nil, h.digit⟩⟩

theorem mem_star_digit : s ∈ digit.star.matches' ↔ ∀ c ∈ s, c.isDigit := by
  rw [digit, mem_star_oneOf]
  simp only [← isDigit_iff_mem]

theorem mem_signPattern : s ∈ signPattern.matches' ↔ Sign s := by
  rw [signPattern, mem_optional, mem_oneOf]
  constructor
  · rintro (rfl | ⟨c, hc, rfl⟩)
    · exact .none
    · rcases List.mem_pair.1 hc with rfl | rfl
      · exact .plus
      · exact .minus
  · intro h
    cases h with
    | none => exact .inl rfl
    | plus => exact .inr ⟨'+', by simp, rfl⟩
    | minus => exact .inr ⟨'-', by simp, rfl⟩

theorem mem_mantissaPattern : s ∈ mantissaPattern.matches' ↔ Mantissa s := by
  have alternatives : s ∈ mantissaPattern.matches' ↔
      s ∈ (many1 digit * optional (char '.' * digit.star)).matches' ∨
        s ∈ (char '.' * many1 digit).matches' := Language.mem_add _ _ s
  rw [alternatives, mem_mul, mem_mul]
  constructor
  · rintro (⟨ds, hd, rest, hrest, rfl⟩ | ⟨point, hpoint, fs, hf, rfl⟩)
    · have hd := mem_digits.1 hd
      rcases mem_optional.1 hrest with rfl | hrest
      · rw [List.append_nil]
        exact .whole hd
      · obtain ⟨point, hpoint, fs, hf, rfl⟩ := mem_mul.1 hrest
        rw [mem_char.1 hpoint]
        exact .point hd (mem_star_digit.1 hf)
    · rw [mem_char.1 hpoint]
      exact .fraction (mem_digits.1 hf)
  · intro h
    cases h with
    | whole hd =>
      exact .inl ⟨s, mem_digits.2 hd, [], mem_optional.2 (.inl rfl), List.append_nil s⟩
    | @point ds fs hd hf =>
      have rest : '.' :: fs ∈ (char '.' * digit.star).matches' :=
        mem_mul.2 ⟨['.'], mem_char.2 rfl, fs, mem_star_digit.2 hf, rfl⟩
      exact .inl ⟨ds, mem_digits.2 hd, _, mem_optional.2 (.inr rest), rfl⟩
    | @fraction fs hf => exact .inr ⟨['.'], mem_char.2 rfl, fs, mem_digits.2 hf, rfl⟩

theorem mem_exponentPattern : s ∈ exponentPattern.matches' ↔
    ∃ e sign ds, s = e :: (sign ++ ds) ∧ (e = 'e' ∨ e = 'E') ∧ Sign sign ∧ Digits ds := by
  rw [exponentPattern, mem_mul]
  constructor
  · rintro ⟨letter, hletter, rest, hrest, rfl⟩
    obtain ⟨e, he, rfl⟩ := mem_oneOf.1 hletter
    obtain ⟨sign, hs, ds, hd, rfl⟩ := mem_mul.1 hrest
    exact ⟨e, sign, ds, rfl, List.mem_pair.1 he, mem_signPattern.1 hs, mem_digits.1 hd⟩
  · rintro ⟨e, sign, ds, rfl, he, hs, hd⟩
    have rest : sign ++ ds ∈ (signPattern * many1 digit).matches' :=
      mem_mul.2 ⟨sign, mem_signPattern.2 hs, ds, mem_digits.2 hd, rfl⟩
    exact ⟨[e], mem_oneOf.2 ⟨e, List.mem_pair.2 he, rfl⟩, _, rest, rfl⟩

theorem mem_scales : s ∈ scales ↔
    s ∈ (anyOf (["Ki", "Mi", "Gi", "Ti", "Pi", "Ei"].map (literal ·.toList))).matches' ∨
      s ∈ (oneOf "numkMGTPE".toList).matches' := by
  have named : scales = ["Ki", "Mi", "Gi", "Ti", "Pi", "Ei"].map String.toList ++
      "numkMGTPE".toList.map ([·]) := rfl
  rw [named, List.mem_append, List.mem_map, List.mem_map]
  simp only [mem_anyOf, mem_oneOf, List.mem_map, exists_exists_and_eq_and, mem_literal]
  simp only [eq_comm]

theorem mem_suffixPattern : s ∈ suffixPattern.matches' ↔ Suffix s := by
  have alternatives : s ∈ suffixPattern.matches' ↔ s = [] ∨
      s ∈ (anyOf (["Ki", "Mi", "Gi", "Ti", "Pi", "Ei"].map (literal ·.toList))).matches' ∨
        s ∈ exponentPattern.matches' ∨ s ∈ (oneOf "numkMGTPE".toList).matches' := by
    rw [suffixPattern, mem_optional]
    exact Iff.rfl
  rw [alternatives, suffix_cases, mem_scales, exponent_iff, mem_exponentPattern, or_assoc,
    or_comm (a := s ∈ (oneOf "numkMGTPE".toList).matches')]

/-- The pattern matches the quantities and nothing else. -/
theorem mem_pattern_iff : s ∈ pattern.matches' ↔ Written s := by
  rw [pattern, mem_mul]
  constructor
  · rintro ⟨sign, hs, rest, hrest, rfl⟩
    obtain ⟨m, hm, x, hx, rfl⟩ := mem_mul.1 hrest
    exact ⟨sign, m, x, rfl, mem_signPattern.1 hs, mem_mantissaPattern.1 hm, mem_suffixPattern.1 hx⟩
  · rintro ⟨sign, m, x, rfl, hs, hm, hx⟩
    have rest : m ++ x ∈ (mantissaPattern * suffixPattern).matches' :=
      mem_mul.2 ⟨m, mem_mantissaPattern.2 hm, x, mem_suffixPattern.2 hx, rfl⟩
    exact ⟨sign, mem_signPattern.2 hs, _, rest, rfl⟩

end PodRunner.Quantity
