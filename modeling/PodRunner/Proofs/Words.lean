import Mathlib.Data.List.Chain
import Mathlib.Data.List.Infix
import PodRunner.Pod.Name
import PodRunner.Proofs.Trimming

/-!
# The words of a name

A text holds words, its longest runs of letters and digits (`Name.words`), and a name is words with
one dash between two of them (`Name.join`).  Bringing a text into the alphabet of names keeps its
words and nothing else (`Name.sanitize_eq`).  What makes names easy to compare is that a text put
together at a dash, or at any other mark, has the words of its parts (`Name.words_append_cons`), and
that a name has no words but those it was joined from (`Name.join_inj`).

All names have one shape (`Name.Shaped`): it is that of joined words, and shortening keeps it
(`Name.Shaped.limit`).
-/

namespace PodRunner.Name

variable {c d : Char} {s t w : List Char} {ws vs : List (List Char)} {n : Nat}

/-- Letters and digits, and at least one of them. -/
structure IsWord (w : List Char) : Prop where
  ne_nil : w ≠ []
  plain : ∀ c ∈ w, isPlain c

/-- The longest runs of letters and digits in a text, in small letters. -/
def words (s : List Char) : List (List Char) :=
  ((s.map Variables.lower).splitOnP fun c => !isPlain c).filter fun w => !w.isEmpty

/-- The words with one dash between two of them. -/
def join (ws : List (List Char)) : List Char := ['-'].intercalate ws

/-! ## Finding words -/

theorem isPlain_iff : isPlain c ↔ ('a' ≤ c ∧ c ≤ 'z') ∨ ('0' ≤ c ∧ c ≤ '9') := by
  simp [isPlain]

theorem ne_dash_of_isPlain (h : isPlain c) : c ≠ '-' := by
  rintro rfl
  revert h
  decide

theorem lower_of_isPlain (h : isPlain c) : Variables.lower c = c := by
  have small : ¬ ('A' ≤ c ∧ c ≤ 'Z') := by
    simp only [isPlain_iff, Char.le_def, UInt32.le_iff_toNat_le] at h ⊢
    simp at h ⊢
    omega
  rw [Variables.lower, if_neg small]

theorem map_lower_of_isWord (h : IsWord w) : w.map Variables.lower = w := by
  rw [List.map_congr_left fun c hc => lower_of_isPlain (h.plain c hc), List.map_id']

theorem words_of_isWord (h : IsWord w) : words w = [w] := by
  have whole : w.splitOnP (fun c => !isPlain c) = [w] :=
    List.splitOnP_eq_singleton fun c hc => by simp [h.plain c hc]
  simp [words, map_lower_of_isWord h, whole, h.ne_nil]

/-- No part between marks has a mark. -/
theorem plain_of_mem_splitOnP {p : Char → Bool} (part : w ∈ s.splitOnP p) :
    ∀ c ∈ w, p c = false := by
  -- By induction on the text: the first part grows at its head, and by no mark.
  induction s generalizing w with
  | nil => simp_all
  | cons c s ih =>
    rw [List.splitOnP_cons_eq_if_modifyHead] at part
    by_cases mark : p c
    · rw [if_pos mark, List.mem_cons] at part
      rcases part with rfl | later
      · simp
      · exact ih later
    · obtain ⟨v, vs, split⟩ := List.exists_cons_of_ne_nil (List.splitOnP_ne_nil p s)
      rw [if_neg mark, split, List.modifyHead_cons, List.mem_cons] at part
      rcases part with rfl | later
      · have grown : ∀ c ∈ v, p c = false := ih (by simp [split])
        simpa using ⟨by simpa using mark, grown⟩
      · exact ih (by simp [split, later])

theorem isWord_of_mem_words (h : w ∈ words s) : IsWord w := by
  obtain ⟨part, nonempty⟩ := List.mem_filter.1 h
  exact ⟨by simpa using nonempty, fun c hc => by simpa using plain_of_mem_splitOnP part c hc⟩

/-- A character outside the alphabet belongs to no word. -/
theorem words_cons_of_other (other : ¬ isPlain (Variables.lower c)) : words (c :: s) = words s := by
  simp [words, List.splitOnP_cons_eq_if_modifyHead, other]

/-- Such a character divides the words before it from the words after it. -/
theorem words_append_cons (other : ¬ isPlain (Variables.lower c)) (s t : List Char) :
    words (s ++ c :: t) = words s ++ words t := by
  have mark : (!isPlain (Variables.lower c)) = true := by simpa using other
  have divided := List.splitOnP_append_cons (p := fun c => !isPlain c)
    (s.map Variables.lower) (t.map Variables.lower) mark
  rw [words, List.map_append, List.map_cons, divided, List.filter_append]
  rfl

theorem words_singleton (plain : isPlain (Variables.lower c)) :
    words [c] = [[Variables.lower c]] := by
  simp [words, List.splitOnP_cons_eq_if_modifyHead, plain]

/-- A letter or digit before another character is a word of its own. -/
theorem words_cons_cons_of_other (plain : isPlain (Variables.lower c))
    (next : ¬ isPlain (Variables.lower d)) (s : List Char) :
    words (c :: d :: s) = [Variables.lower c] :: words s := by
  rw [← List.singleton_append, words_append_cons next, words_singleton plain,
    List.singleton_append]

/-- A letter or digit before another one belongs to the same word. -/
theorem words_cons_cons (plain : isPlain (Variables.lower c)) (next : isPlain (Variables.lower d))
    (s : List Char) : ∃ w ws, words (d :: s) = w :: ws ∧
      words (c :: d :: s) = (Variables.lower c :: w) :: ws := by
  obtain ⟨v, vs, split⟩ := List.exists_cons_of_ne_nil
    (List.splitOnP_ne_nil (fun c => !isPlain c) (s.map Variables.lower))
  refine ⟨Variables.lower d :: v, vs.filter fun w => !w.isEmpty, ?_, ?_⟩
  · simp [words, List.splitOnP_cons_eq_if_modifyHead, next, split]
  · simp [words, List.splitOnP_cons_eq_if_modifyHead, plain, next, split]

/-! ## Joining words -/

theorem join_cons_cons (w v : List Char) (ws : List (List Char)) :
    join (w :: v :: ws) = w ++ '-' :: join (v :: ws) := by
  simp [join, List.intercalate_cons_cons]

theorem join_singleton (w : List Char) : join [w] = w := List.intercalate_singleton

theorem join_cons_head (c : Char) (w : List Char) (ws : List (List Char)) :
    join ((c :: w) :: ws) = c :: join (w :: ws) := by
  cases ws with
  | nil => simp [join_singleton]
  | cons v ws => simp [join_cons_cons]

/-- The shape of names: small letters, digits and dashes, with no dash at either end and none after
another. -/
structure Shaped (s : List Char) : Prop where
  ne_nil : s ≠ []
  alphabet : ∀ c ∈ s, isPlain c ∨ c = '-'
  head : ∀ c ∈ s.head?, c ≠ '-'
  last : ∀ c ∈ s.getLast?, c ≠ '-'
  single : s.IsChain fun a b => a = '-' → b ≠ '-'

theorem IsWord.shaped (h : IsWord w) : Shaped w where
  ne_nil := h.ne_nil
  alphabet c hc := .inl (h.plain c hc)
  head c hc := ne_dash_of_isPlain (h.plain c (List.mem_of_mem_head? hc))
  last c hc := ne_dash_of_isPlain (h.plain c (List.mem_of_mem_getLast? hc))
  single := List.Pairwise.isChain <| List.pairwise_of_forall_mem_list fun _ _ c hc _ =>
    ne_dash_of_isPlain (h.plain c hc)

/-- There is no dash to trim from a name. -/
theorem Shaped.padded (h : Shaped s) : Blank.Padded isDash s s :=
  Blank.padded_self (fun c hc => by simpa [isDash] using h.head c hc)
    fun c hc => by simpa [isDash] using h.last c hc

/-- Two names with a dash between them are a name. -/
theorem Shaped.dash (hs : Shaped s) (ht : Shaped t) : Shaped (s ++ '-' :: t) where
  ne_nil := by simp
  alphabet c hc := by
    simp only [List.mem_append, List.mem_cons] at hc
    rcases hc with hc | rfl | hc
    · exact hs.alphabet c hc
    · exact .inr rfl
    · exact ht.alphabet c hc
  head := by
    rw [List.head?_append_of_ne_nil _ hs.ne_nil]
    exact hs.head
  last := by
    have tail : ('-' :: t).getLast? = t.getLast? := by
      cases t with
      | nil => exact absurd rfl ht.ne_nil
      | cons => rfl
    rw [List.getLast?_append_of_ne_nil _ (by simp), tail]
    exact ht.last
  single := by
    rw [List.isChain_append, List.isChain_cons]
    refine ⟨hs.single, ⟨fun c hc _ => ht.head c hc, ht.single⟩, fun c hc _ _ dash => ?_⟩
    exact absurd dash (hs.last c hc)

theorem shaped_join (some : ws ≠ []) (all : ∀ w ∈ ws, IsWord w) : Shaped (join ws) := by
  induction ws with
  | nil => exact absurd rfl some
  | cons w ws ih =>
    have first : IsWord w := all w List.mem_cons_self
    cases ws with
    | nil => rw [join_singleton]; exact first.shaped
    | cons v ws =>
      rw [join_cons_cons]
      exact first.shaped.dash (ih (by simp) fun w hw => all w (List.mem_cons_of_mem _ hw))

/-- A name has no words but those it was joined from. -/
theorem words_join (all : ∀ w ∈ ws, IsWord w) : words (join ws) = ws := by
  have dash : ¬ isPlain (Variables.lower '-') := by decide
  induction ws with
  | nil => rfl
  | cons w ws ih =>
    have first : words w = [w] := words_of_isWord (all w List.mem_cons_self)
    cases ws with
    | nil => rw [join_singleton, first]
    | cons v ws =>
      rw [join_cons_cons, words_append_cons dash, first,
        ih fun w hw => all w (List.mem_cons_of_mem _ hw)]
      rfl

theorem join_inj (hws : ∀ w ∈ ws, IsWord w) (hvs : ∀ w ∈ vs, IsWord w) :
    join ws = join vs ↔ ws = vs := by
  refine ⟨fun same => ?_, congrArg join⟩
  rw [← words_join hws, same, words_join hvs]

/-! ## The alphabet of names -/

theorem isWord_runner : IsWord "runner".toList := ⟨by simp, by simp [isPlain]⟩

theorem squeeze_cons_of_plain (plain : isPlain (Variables.lower c)) (dashed : Bool)
    (s : List Char) : squeeze dashed (c :: s) = Variables.lower c :: squeeze false s := by
  simp [squeeze, plain]

theorem squeeze_cons_of_other (other : ¬ isPlain (Variables.lower c)) (dashed : Bool)
    (s : List Char) :
    squeeze dashed (c :: s) = (if dashed then [] else ['-']) ++ squeeze true s := by
  cases dashed <;> simp [squeeze, other]

/-- After a dash the words of a text follow, and a dash if more follows the last of them. -/
theorem squeeze_true (s : List Char) :
    ∃ back, squeeze true s = join (words s) ++ back ∧
      (back = [] ∨ back = ['-'] ∧ words s ≠ []) := by
  induction s with
  | nil => exact ⟨[], rfl, .inl rfl⟩
  | cons c s ih =>
    by_cases plain : isPlain (Variables.lower c)
    · rw [squeeze_cons_of_plain plain]
      cases s with
      | nil =>
        exact ⟨[], by simp [words_singleton plain, join_singleton, squeeze], .inl rfl⟩
      | cons d s =>
        by_cases next : isPlain (Variables.lower d)
        · -- The word of the second character grows.
          obtain ⟨w, ws, old, new⟩ := words_cons_cons plain next s
          obtain ⟨back, squeezed, ends⟩ := ih
          rw [squeeze_cons_of_plain next, ← squeeze_cons_of_plain next true, squeezed, old, new,
            join_cons_head]
          exact ⟨back, rfl, ends.imp_right fun e => ⟨e.1, by simp⟩⟩
        · -- The dash that ends the word is the last one if no word follows.
          obtain ⟨back, squeezed, ends⟩ := ih
          rw [squeeze_cons_of_other next, words_cons_of_other next] at squeezed
          rw [words_cons_of_other next] at ends
          rw [squeeze_cons_of_other next, words_cons_cons_of_other plain next]
          simp only [if_true, List.nil_append] at squeezed
          rw [squeezed]
          cases none : words s with
          | nil =>
            obtain rfl : back = [] := ends.resolve_right fun e => e.2 none
            exact ⟨['-'], by simp [join], .inr ⟨rfl, by simp⟩⟩
          | cons w ws =>
            exact ⟨back, by simp [join_cons_cons], ends.imp_right fun e => ⟨e.1, by simp⟩⟩
    · rw [squeeze_cons_of_other plain, words_cons_of_other plain]
      exact ih

/-- Between dashes, a squeezed text is its words, joined. -/
theorem padded_squeeze (s : List Char) : Blank.Padded isDash (join (words s)) (squeeze false s) := by
  obtain ⟨back, squeezed, ends⟩ := squeeze_true s
  have front : ∃ front, squeeze false s = front ++ squeeze true s ∧ ∀ c ∈ front, isDash c := by
    cases s with
    | nil => exact ⟨[], rfl, by simp⟩
    | cons c s =>
      by_cases plain : isPlain (Variables.lower c)
      · exact ⟨[], by simp [squeeze_cons_of_plain plain], by simp⟩
      · exact ⟨['-'], by simp [squeeze_cons_of_other plain], by simp [isDash]⟩
  obtain ⟨front, split, dashes⟩ := front
  have dashes' : ∀ c ∈ back, isDash c := by
    rcases ends with rfl | ⟨rfl, -⟩ <;> simp [isDash]
  have bare : (∀ c ∈ (join (words s)).head?, ¬ isDash c) ∧
      ∀ c ∈ (join (words s)).getLast?, ¬ isDash c := by
    by_cases none : words s = []
    · simp [none, join]
    · have padded := (shaped_join none fun w hw => isWord_of_mem_words hw).padded
      exact ⟨padded.head, padded.last⟩
  exact ⟨⟨front, back, by rw [split, squeezed, List.append_assoc], dashes, dashes'⟩, bare.1, bare.2⟩

/-- A text in the alphabet of names is its words, joined, if it has any. -/
theorem sanitize_eq (s : List Char) :
    sanitize s = if words s = [] then "runner".toList else join (words s) := by
  rw [sanitize, (padded_squeeze s).trimWhile_eq]
  by_cases none : words s = []
  · rw [none]
    rfl
  · have nonempty := (shaped_join none fun w hw => isWord_of_mem_words hw).ne_nil
    rw [if_neg none]
    split
    · next empty => exact absurd empty nonempty
    · rfl

theorem shaped_sanitize (s : List Char) : Shaped (sanitize s) := by
  rw [sanitize_eq]
  split
  · exact isWord_runner.shaped
  · next some => exact shaped_join some fun w hw => isWord_of_mem_words hw

end PodRunner.Name
