import Mathlib.Data.List.DropRight
import PodRunner.Text.Blank

/-!
# Trimming

A text is what remains of it after trimming, with characters that are trimmed around it
(`Blank.Padded`), and nothing else remains (`Blank.trimWhile_eq_iff`).
-/

namespace PodRunner.Blank

variable {p : Char → Bool} {s word : List Char}

/-- The text is the word with characters that satisfy `p` around it; the word itself neither begins
nor ends with one. -/
structure Padded (p : Char → Bool) (word s : List Char) : Prop where
  around : ∃ front back, s = front ++ word ++ back ∧ (∀ c ∈ front, p c) ∧ ∀ c ∈ back, p c
  head : ∀ c ∈ word.head?, ¬ p c
  last : ∀ c ∈ word.getLast?, ¬ p c

theorem exists_dropEndWhile_append (p : Char → Bool) (s : List Char) :
    ∃ back, s = dropEndWhile p s ++ back ∧ ∀ c ∈ back, p c :=
  ⟨s.rtakeWhile p, List.rdropWhile_append_rtakeWhile.symm, fun _ hc => List.mem_rtakeWhile_imp hc⟩

theorem not_of_head?_dropWhile (p : Char → Bool) (s : List Char) :
    ∀ c ∈ (s.dropWhile p).head?, ¬ p c := by
  intro c hc
  have := List.head?_dropWhile_not p s
  rw [Option.mem_def.1 hc] at this
  simpa using this

/-- Taking characters off the end leaves the first one, or nothing. -/
theorem head?_dropEndWhile {c : Char} (h : c ∈ (dropEndWhile p s).head?) : c ∈ s.head? := by
  obtain ⟨back, split, -⟩ := exists_dropEndWhile_append p s
  rw [split, List.head?_append, Option.mem_def.1 h]
  rfl

/-- Taking characters off the end stops before one that stays. -/
theorem not_of_getLast?_dropEndWhile (p : Char → Bool) (s : List Char) :
    ∀ c ∈ (dropEndWhile p s).getLast?, ¬ p c := by
  intro c hc
  rw [dropEndWhile, List.getLast?_reverse] at hc
  exact not_of_head?_dropWhile p _ c hc

theorem dropEndWhile_prefix (p : Char → Bool) (s : List Char) : dropEndWhile p s <+: s := by
  obtain ⟨back, split, -⟩ := exists_dropEndWhile_append p s
  exact ⟨back, split.symm⟩

/-- A beginning of the text that ends with a character that stays is left whole. -/
theorem prefix_dropEndWhile (start : word <+: s) (stays : ∀ c ∈ word.getLast?, ¬ p c) :
    word <+: dropEndWhile p s := by
  obtain ⟨rest, rfl⟩ := start
  cases reversed : word.reverse with
  | nil => simp [List.reverse_eq_nil_iff.1 reversed]
  | cons c front =>
    have kept : (c :: front).dropWhile p = c :: front := by
      refine List.dropWhile_cons_of_neg (stays c ?_)
      rw [← List.head?_reverse, reversed]
      rfl
    have whole : word = (c :: front).reverse := by rw [← reversed, List.reverse_reverse]
    rw [dropEndWhile, List.reverse_append, reversed, List.dropWhile_append, kept, whole]
    split
    · exact List.prefix_rfl
    · rw [List.reverse_append]
      exact List.prefix_append _ _

theorem padded_trimWhile (p : Char → Bool) (s : List Char) : Padded p (trimWhile p s) s := by
  obtain ⟨back, split, all⟩ := exists_dropEndWhile_append p (s.dropWhile p)
  refine ⟨⟨s.takeWhile p, back, ?_, fun c hc => List.mem_takeWhile_imp hc, all⟩, ?_, ?_⟩
  · rw [trimWhile, List.append_assoc, ← split]
    exact List.takeWhile_append_dropWhile.symm
  · exact fun c hc => not_of_head?_dropWhile p s c (head?_dropEndWhile hc)
  · exact not_of_getLast?_dropEndWhile p _

theorem dropWhile_append {front rest : List Char} (all : ∀ c ∈ front, p c)
    (head : ∀ c ∈ rest.head?, ¬ p c) : (front ++ rest).dropWhile p = rest := by
  rw [List.dropWhile_append_of_pos all]
  cases rest with
  | nil => rfl
  | cons c rest => exact List.dropWhile_cons_of_neg (head c rfl)

theorem takeWhile_append {front rest : List Char} (all : ∀ c ∈ front, p c)
    (head : ∀ c ∈ rest.head?, ¬ p c) : (front ++ rest).takeWhile p = front := by
  have whole : (front ++ rest).takeWhile p ++ (front ++ rest).dropWhile p = front ++ rest :=
    List.takeWhile_append_dropWhile
  rw [dropWhile_append all head] at whole
  exact List.append_cancel_right whole

theorem dropEndWhile_append {rest back : List Char} (all : ∀ c ∈ back, p c)
    (last : ∀ c ∈ rest.getLast?, ¬ p c) : dropEndWhile p (rest ++ back) = rest := by
  have reversed : (back.reverse ++ rest.reverse).dropWhile p = rest.reverse :=
    dropWhile_append (fun c hc => all c (List.mem_reverse.1 hc)) (by rwa [List.head?_reverse])
  rw [dropEndWhile, List.reverse_append, reversed, List.reverse_reverse]

theorem Padded.trimWhile_eq (h : Padded p word s) : trimWhile p s = word := by
  obtain ⟨front, back, rfl, allFront, allBack⟩ := h.around
  cases word with
  | nil =>
    -- Nothing but padding: the first pass drops it all.
    have all : ∀ c ∈ front ++ [] ++ back, p c := by
      simpa [or_imp, forall_and] using ⟨allFront, allBack⟩
    rw [trimWhile, List.dropWhile_eq_nil_iff.2 all]
    rfl
  | cons c word =>
    rw [trimWhile, List.append_assoc, dropWhile_append allFront (by simpa using h.head),
      dropEndWhile_append allBack h.last]

/-- A text with nothing to trim at its ends. -/
theorem padded_self (head : ∀ c ∈ s.head?, ¬ p c) (last : ∀ c ∈ s.getLast?, ¬ p c) :
    Padded p s s :=
  ⟨⟨[], [], (List.append_nil s).symm, nofun, nofun⟩, head, last⟩

/-- What remains after trimming is the one word around which everything is trimmed. -/
theorem trimWhile_eq_iff : trimWhile p s = word ↔ Padded p word s :=
  ⟨fun h => h ▸ padded_trimWhile p s, Padded.trimWhile_eq⟩

/-- Nothing remains of a text in which every character is trimmed, and of no other. -/
theorem trimWhile_eq_nil_iff : trimWhile p s = [] ↔ ∀ c ∈ s, p c := by
  rw [trimWhile_eq_iff]
  constructor
  · intro h
    obtain ⟨front, back, rfl, allFront, allBack⟩ := h.around
    simpa [or_imp, forall_and] using ⟨allFront, allBack⟩
  · exact fun all => ⟨⟨s, [], by simp, all, by simp⟩, by simp, by simp⟩

theorem trim_eq_iff : trim s = word ↔ Padded isBlank word s := trimWhile_eq_iff

theorem blank_iff {raw : String} : blank raw ↔ trim raw.toList = [] := by
  rw [blank, List.all_eq_true, trim, trimWhile_eq_nil_iff]

end PodRunner.Blank
