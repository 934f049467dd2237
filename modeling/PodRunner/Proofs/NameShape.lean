import PodRunner.Proofs.Stem

/-!
# Names keep their shape

The shape of names is what bringing a text into their alphabet leaves alone: the alphabet is made of
characters that stay, and a dash is dropped only after another one (`Name.sanitize_eq_self_iff`).
A name that is too long loses little more than it must, since of the head that is kept at most one
dash is taken away, and no second dash comes to stand before the hash.  So both ways to make a name
end in one shape, and neither changes what it made (`Name.shape_kept`).
-/

namespace PodRunner.Name

variable {s : List Char} {n : Nat}

/-! ## Bringing into the alphabet -/

/-- Nothing changes in a text of small letters, digits and single dashes; if it comes after a dash
(`dashed`), it must not begin with another. -/
theorem squeeze_eq_self (alphabet : ∀ c ∈ s, isPlain c ∨ c = '-')
    (single : s.IsChain fun a b => a = '-' → b ≠ '-') (dashed : Bool)
    (bare : dashed → ∀ c ∈ s.head?, c ≠ '-') : squeeze dashed s = s := by
  -- By induction on the text, for both values of the flag: what is asked of the text after a dash is
  -- what the chain says of the character next to it.
  induction s generalizing dashed with
  | nil => rfl
  | cons c s ih =>
    obtain ⟨next, rest⟩ := List.isChain_cons.1 single
    have step := ih (fun d hd => alphabet d (List.mem_cons_of_mem _ hd)) rest
    rcases alphabet c List.mem_cons_self with plain | rfl
    · have small : Variables.lower c = c := lower_of_isPlain plain
      rw [squeeze_cons_of_plain (by rwa [small]), small, step false (by simp)]
    · have first : dashed = false := by simpa using bare
      rw [squeeze_cons_of_other (by decide), first, step true fun _ d hd => next d hd rfl]
      rfl

theorem Shaped.sanitize_eq (h : Shaped s) : sanitize s = s := by
  have squeezed : squeeze false s = s := squeeze_eq_self h.alphabet h.single false (by simp)
  rw [sanitize, squeezed, h.padded.trimWhile_eq]
  split
  · exact absurd rfl h.ne_nil
  · rfl

/-- The texts that are left alone are those of the shape of names. -/
theorem sanitize_eq_self_iff : sanitize s = s ↔ Shaped s :=
  ⟨fun same => same ▸ shaped_sanitize s, Shaped.sanitize_eq⟩

/-- The words of a text are kept, and a text without any gets one. -/
theorem words_sanitize (s : List Char) :
    words (sanitize s) = if words s = [] then ["runner".toList] else words s := by
  rw [sanitize_eq]
  split
  · exact words_of_isWord isWord_runner
  · exact words_join fun w hw => isWord_of_mem_words hw

/-! ## Shortening -/

/-- Where no dash follows another, at most one is taken off the end. -/
theorem length_le_dropEndWhile (single : s.IsChain fun a b => a = '-' → b ≠ '-') :
    s.length ≤ (Blank.dropEndWhile isDash s).length + 1 := by
  obtain ⟨back, split, dashes⟩ := Blank.exists_dropEndWhile_append isDash s
  have alone : back.IsChain fun a b => a = '-' → b ≠ '-' := by
    rw [split] at single
    exact single.right_of_append
  have short : back.length ≤ 1 := by
    match back with
    | [] | [_] => simp
    | c :: d :: _ =>
      have both : c = '-' ∧ d = '-' := by simpa [isDash] using And.intro (dashes c) (dashes d)
      exact absurd both.2 ((List.isChain_cons_cons.1 alone).1 both.1)
  have whole := congrArg List.length split
  rw [List.length_append] at whole
  omega

theorem limit_eq_self_iff (room : hashLength + 1 ≤ n) : limit n s = s ↔ s.length ≤ n := by
  constructor
  · intro same
    rw [← same]
    exact length_limit_le room s
  · intro fits
    rw [limit, if_pos fits]

/-- A name that is too long is cut to the length that is left to it, or one character less. -/
theorem le_length_limit (h : Shaped s) (room : hashLength + 1 ≤ n) (long : n < s.length) :
    n ≤ (limit n s).length + 1 := by
  have single := h.single.prefix (List.take_prefix (n - (hashLength + 1)) s)
  have head := length_le_dropEndWhile single
  rw [limit, if_neg (by omega), List.length_append, List.length_cons, length_hash]
  rw [List.length_take] at head
  omega

/-- Without room for a character before it, the dash before the hash comes to stand first. -/
theorem not_shaped_limit (tight : n < hashLength + 2) (long : n < s.length) :
    ¬ Shaped (limit n s) := by
  intro h
  have nothing : n - (hashLength + 1) = 0 := by omega
  refine h.head '-' ?_ rfl
  rw [limit, if_neg (by omega), nothing]
  rfl

/-! ## One shape -/

/-- Any text is brought into the shape of names, with its words or with one given to it if it has
none, and a text of that shape is left alone, so that it makes no difference to do it twice.

A name is shortened to any limit of at least ten bytes without a cut that fails.  The result has the
shape of names and fits, it is the name itself if and only if that fits, and to shorten it to the
same limit again changes nothing; of a name that does not fit, no more than one byte of the limit is
left unused.  Below ten bytes such a name would lose its shape. -/
theorem shape_kept (s : List Char) :
    Shaped (sanitize s) ∧ sanitize (sanitize s) = sanitize s ∧ (sanitize s = s ↔ Shaped s) ∧
    words (sanitize s) = (if words s = [] then ["runner".toList] else words s) ∧
    (Shaped s → ∀ n, 10 ≤ n →
      limit? n s = some (limit n s) ∧ Shaped (limit n s) ∧ Utf8.size (limit n s) ≤ n ∧
      (limit n s = s ↔ Utf8.size s ≤ n) ∧ limit n (limit n s) = limit n s ∧
      (n < Utf8.size s → n ≤ Utf8.size (limit n s) + 1)) ∧
    (Shaped s → ∀ n < 10, n < Utf8.size s → ¬ Shaped (limit n s)) := by
  have made : Shaped (sanitize s) := shaped_sanitize s
  refine ⟨made, made.sanitize_eq, sanitize_eq_self_iff, words_sanitize s, fun h n ten => ?_,
    fun h n tight long => ?_⟩
  · have room : hashLength + 1 ≤ n := by
      rw [hashLength]
      omega
    have cut : Shaped (limit n s) := h.limit (by rwa [hashLength])
    rw [Utf8.size_of_ascii h.ascii, Utf8.size_of_ascii cut.ascii]
    have fits : (limit n s).length ≤ n := length_limit_le room s
    exact ⟨limit?_eq h n, cut, fits, limit_eq_self_iff room, (limit_eq_self_iff room).2 fits,
      le_length_limit h room⟩
  · rw [Utf8.size_of_ascii h.ascii] at long
    exact not_shaped_limit (by rwa [hashLength]) long

/-- A name that is cut right after a dash, which is not kept: it has one byte less than it could. -/
theorem sample_shape_kept :
    let s := "ab-cdefghijkl".toList
    Shaped s ∧ limit? 12 s = some "ab-174c9df7".toList ∧ Shaped (limit 12 s) ∧
      limit 12 (limit 12 s) = limit 12 s ∧ ¬ Shaped (limit 9 s) := by
  intro s
  obtain ⟨-, -, alone, -, shortened, tight⟩ := shape_kept s
  have shaped : Shaped s := alone.1 (by decide)
  obtain ⟨whole, cut, -, -, again, -⟩ := shortened shaped 12 (by decide)
  have head : limit 12 s = "ab-174c9df7".toList := by decide +kernel
  exact ⟨shaped, head ▸ whole, cut, again, tight shaped 9 (by decide) (by decide)⟩

end PodRunner.Name
