import Mathlib
import PodRunner.Proofs.Words

/-!
# The stems of pod names

The stem of a job's pods is the name made of a word for the runner, its project and its slot, with a
dash for the cluster to complete it after.  Whatever the token of the runner is, that is a stem the
cluster can complete to a label of the domain name system (`Name.isStem_generate`): shortening keeps
the shape of names (`Name.Shaped.limit`), and the cuts that are made in bytes on the way never
fail (`Name.limit?_eq`).

While nothing is shortened, the stem tells its parts: it is the same for two jobs if and only if
they have the same project and slot and their runners' tokens have the same words
(`Name.generate_eq_iff`).
-/

namespace PodRunner

/-! ## Cuts in bytes -/

namespace Utf8

/-- The number of bytes of a text. -/
def size (s : List Char) : Nat := (encodeChars s).length

/-- The characters in the first `n` bytes of a text; nothing, if the text has fewer bytes or a
character goes on after them. -/
def cut? : Nat → List Char → Option (List Char)
  | 0, _ => some []
  | _ + 1, [] => none
  | n + 1, c :: s =>
    if size [c] ≤ n + 1 then (cut? (n + 1 - size [c]) s).map (c :: ·) else none

/-- The byte at which the character number `k` begins, the first one being number 0. -/
def offset? (k : Nat) (s : List Char) : Option Nat :=
  if k < s.length then some (size (s.take k)) else none

variable {s a b : List Char} {n : Nat} {c : Char}

theorem size_append (a b : List Char) : size (a ++ b) = size a + size b := by
  simp [size, encodeChars]

theorem size_cons (c : Char) (s : List Char) : size (c :: s) = size [c] + size s :=
  size_append [c] s

theorem size_singleton_pos (c : Char) : 0 < size [c] := by
  simp only [size, encodeChars, List.flatMap_singleton, encodeChar]
  split_ifs <;> simp

theorem size_of_ascii (ascii : ∀ c ∈ s, c.toNat < 0x80) : size s = s.length := by
  induction s with
  | nil => rfl
  | cons c s ih =>
    have one : size [c] = 1 := by
      simp [size, encodeChars, encodeChar, ascii c List.mem_cons_self]
    rw [size_cons, one, ih fun c hc => ascii c (List.mem_cons_of_mem _ hc), List.length_cons]
    omega

theorem size_eq_zero_iff : size s = 0 ↔ s = [] := by
  cases s with
  | nil => simp [size, encodeChars]
  | cons c s =>
    have := size_singleton_pos c
    rw [size_cons]
    simp
    omega

theorem cut?_zero_eq_some_iff : cut? 0 s = some a ↔ ∃ b, s = a ++ b ∧ size a = 0 := by
  have nothing : cut? 0 s = some [] := by cases s <;> rfl
  rw [nothing]
  constructor
  · rintro ⟨⟩
    exact ⟨s, rfl, rfl⟩
  · rintro ⟨b, -, empty⟩
    rw [size_eq_zero_iff.1 empty]

/-- A text can be cut where a character begins, and nowhere else. -/
theorem cut?_eq_some_iff : cut? n s = some a ↔ ∃ b, s = a ++ b ∧ size a = n := by
  induction s generalizing n a with
  | nil =>
    cases n with
    | zero => exact cut?_zero_eq_some_iff
    | succ n =>
      simp only [cut?, reduceCtorEq, false_iff, not_exists, not_and]
      intro b split
      obtain ⟨rfl, -⟩ := List.append_eq_nil_iff.1 split.symm
      simp [size, encodeChars]
  | cons c s ih =>
    have := size_singleton_pos c
    cases n with
    | zero => exact cut?_zero_eq_some_iff
    | succ n =>
      simp only [cut?]
      constructor
      · intro found
        split at found
        · next fits =>
          obtain ⟨a, rest, rfl⟩ := Option.map_eq_some_iff.1 found
          obtain ⟨b, rfl, whole⟩ := ih.1 rest
          exact ⟨b, rfl, by rw [size_cons]; omega⟩
        · cases found
      · rintro ⟨b, split, whole⟩
        cases a with
        | nil => cases whole
        | cons d a =>
          obtain ⟨rfl, rfl⟩ := List.cons_eq_cons.1 split
          rw [size_cons] at whole
          rw [if_pos (by omega), ih.2 ⟨b, rfl, by omega⟩]
          rfl

theorem cut?_take (k : Nat) (s : List Char) : cut? (size (s.take k)) s = some (s.take k) :=
  cut?_eq_some_iff.2 ⟨s.drop k, (List.take_append_drop k s).symm, rfl⟩

end Utf8

/-- The first eight characters of the token, cut off at the byte where the ninth begins. -/
def Runner.shortToken? (r : Runner) : Option String :=
  match Utf8.offset? 8 r.token.toList with
  | some i => (Utf8.cut? i r.token.toList).map String.ofList
  | none => some r.token

theorem Runner.shortToken?_eq (r : Runner) : r.shortToken? = some r.shortToken := by
  unfold shortToken? Utf8.offset? shortToken
  by_cases long : 8 < r.token.toList.length
  · simp [long, Utf8.cut?_take]
  · rw [if_neg long, List.take_of_length_le (by omega), String.ofList_toList]

namespace Name

variable {s t : List Char} {c : Char} {n : Nat}

/-! ## Shortening -/

/-- The hash of a name, cut off the digits of the whole hash in bytes. -/
def hash? (s : List Char) : Option (List Char) :=
  Utf8.cut? hashLength (SipHash.digits (SipHash.hash (Utf8.encodeChars s ++ [0xFF])))

/-- The name of at most `n` bytes, cut in bytes. -/
def limit? (n : Nat) (s : List Char) : Option (List Char) :=
  if Utf8.size s ≤ n then some s
  else do
    let hash ← hash? s
    let head ← Utf8.cut? (n - (Utf8.size hash + 1)) s
    return Blank.dropEndWhile isDash head ++ '-' :: hash

theorem isPlain_of_mem_toDigits {b k : Nat} (base : 1 < b) (hex : b ≤ 16) :
    ∀ c ∈ Nat.toDigits b k, isPlain c := by
  have digit : ∀ d < 16, isPlain (Nat.digitChar d) := by decide
  induction k using Nat.strong_induction_on with
  | _ k ih =>
    rw [Nat.toDigits_eq_if base]
    split
    · next small => simpa using digit k (by omega)
    · next large =>
      have less : k / b < k := Nat.div_lt_self (by omega) base
      have last : k % b < 16 := Nat.lt_of_lt_of_le (Nat.mod_lt _ (by omega)) hex
      intro c hc
      rcases List.mem_append.1 hc with hc | hc
      · exact ih _ less c hc
      · rw [List.mem_singleton.1 hc]
        exact digit _ last

theorem isPlain_of_mem_digits {x : UInt64} (hc : c ∈ SipHash.digits x) : isPlain c := by
  rcases List.mem_append.1 hc with zero | digit
  · rw [List.eq_of_mem_replicate zero]
    decide
  · exact isPlain_of_mem_toDigits (by omega) (by omega) c digit

theorem length_hash (s : List Char) : (hash s).length = hashLength := by
  simp only [hash, SipHash.digits, List.length_take, List.length_append, List.length_replicate,
    hashLength]
  omega

theorem isWord_hash (s : List Char) : IsWord (hash s) where
  ne_nil := List.ne_nil_of_length_pos (by rw [length_hash]; decide)
  plain _ hc := isPlain_of_mem_digits (List.mem_of_mem_take hc)

theorem ascii_of_isPlain (h : isPlain c) : c.toNat < 0x80 := by
  simp only [isPlain_iff, Char.le_def, UInt32.le_iff_toNat_le] at h
  simp at h
  omega

theorem ascii_of_alphabet (h : ∀ c ∈ s, isPlain c ∨ c = '-') : ∀ c ∈ s, c.toNat < 0x80 := by
  intro c hc
  rcases h c hc with plain | rfl
  · exact ascii_of_isPlain plain
  · decide

theorem Shaped.ascii (h : Shaped s) : ∀ c ∈ s, c.toNat < 0x80 := ascii_of_alphabet h.alphabet

theorem hash?_eq (s : List Char) : hash? s = some (hash s) := by
  have bytes : Utf8.size (hash s) = hashLength := by
    rw [Utf8.size_of_ascii fun c hc => ascii_of_isPlain ((isWord_hash s).plain c hc), length_hash]
  rw [hash?, ← bytes]
  exact Utf8.cut?_take _ _

/-- The characters of a name are its bytes: cuts in bytes fall between characters. -/
theorem limit?_eq (h : Shaped s) (n : Nat) : limit? n s = some (limit n s) := by
  have bytes : Utf8.size s = s.length := Utf8.size_of_ascii h.ascii
  unfold limit? limit
  rw [bytes]
  split
  · rfl
  · next long =>
    have hashBytes : Utf8.size (hash s) = hashLength := by
      rw [Utf8.size_of_ascii (isWord_hash s).shaped.ascii, length_hash]
    have headBytes : Utf8.size (s.take (n - (hashLength + 1))) = n - (hashLength + 1) := by
      rw [Utf8.size_of_ascii fun c hc => h.ascii c (List.mem_of_mem_take hc), List.length_take]
      omega
    have cut := Utf8.cut?_take (n - (hashLength + 1)) s
    rw [headBytes] at cut
    simp [hash?_eq, hashBytes, cut]

/-- A name that is cut off, without the dash at its end. -/
theorem Shaped.head_take (h : Shaped s) (room : 0 < n) :
    Shaped (Blank.dropEndWhile isDash (s.take n)) := by
  have start : Blank.dropEndWhile isDash (s.take n) <+: s :=
    (Blank.dropEndWhile_prefix _ _).trans (List.take_prefix _ _)
  obtain ⟨c, rest, rfl⟩ := List.exists_cons_of_ne_nil h.ne_nil
  obtain ⟨m, rfl⟩ : ∃ m, n = m + 1 := ⟨n - 1, by omega⟩
  have first : [c] <+: Blank.dropEndWhile isDash ((c :: rest).take (m + 1)) := by
    have bare : c ≠ '-' := h.head c rfl
    refine Blank.prefix_dropEndWhile (by simp) ?_
    simpa [isDash] using bare
  exact {
    ne_nil := by
      intro empty
      rw [empty] at first
      simp at first
    alphabet := fun d hd => h.alphabet d (start.subset hd)
    head := by
      obtain ⟨tail, split⟩ := first
      rw [← split]
      exact h.head
    last := fun d hd => by simpa [isDash] using Blank.not_of_getLast?_dropEndWhile isDash _ d hd
    single := h.single.prefix start }

/-- Shortening keeps the shape of names, if it leaves room for a character, a dash and the hash. -/
theorem Shaped.limit (h : Shaped s) (room : hashLength + 2 ≤ n) : Shaped (Name.limit n s) := by
  unfold Name.limit
  split
  · exact h
  · exact (h.head_take (by omega)).dash (isWord_hash s).shaped

theorem length_limit_le (room : hashLength + 1 ≤ n) (s : List Char) : (limit n s).length ≤ n := by
  unfold limit
  split
  · assumption
  · have cut := (Blank.dropEndWhile_prefix isDash (s.take (n - (hashLength + 1)))).length_le
    simp only [List.length_append, List.length_cons, length_hash, List.length_take] at cut ⊢
    omega

/-- A beginning of a name that fits before the hash, and does not end with a dash, is kept. -/
theorem prefix_limit (start : t <+: s) (bare : ∀ c ∈ t.getLast?, c ≠ '-')
    (room : t.length + (hashLength + 1) ≤ n) : t <+: limit n s := by
  unfold limit
  split
  · exact start
  · have kept : t <+: s.take (n - (hashLength + 1)) :=
      List.prefix_take_iff.2 ⟨start, by omega⟩
    have trimmed := Blank.prefix_dropEndWhile (p := isDash) kept
      fun c hc => by simpa [isDash] using bare c hc
    exact trimmed.trans (List.prefix_append _ _)

/-! ## The words of a stem -/

theorem isWord_toString (k : Nat) : IsWord (toString k).toList := by
  rw [Nat.toString_eq_repr, Nat.toList_repr]
  exact ⟨Nat.toDigits_ne_nil, isPlain_of_mem_toDigits (by omega) (by omega)⟩

theorem isWord_project : IsWord "project".toList := ⟨by simp, by simp [isPlain]⟩

theorem isWord_concurrent : IsWord "concurrent".toList := ⟨by simp, by simp [isPlain]⟩

/-- The words after those of the token. -/
def slotWords (j : Job) : List (List Char) :=
  ["project".toList, (toString j.projectId).toList, "concurrent".toList,
    (toString j.concurrentId).toList]

variable {r r₁ r₂ : Runner} {j j₁ j₂ : Job}

theorem isWord_of_mem_slotWords {w : List Char} (h : w ∈ slotWords j) : IsWord w := by
  simp only [slotWords, List.mem_cons, List.not_mem_nil, or_false] at h
  rcases h with rfl | rfl | rfl | rfl
  · exact isWord_project
  · exact isWord_toString _
  · exact isWord_concurrent
  · exact isWord_toString _

/-- The words of what a stem is made from: whatever is in the token, its words stand between the
first word and those of the project and the slot. -/
theorem words_base (r : Runner) (j : Job) :
    words (base r j).toList =
      "runner".toList :: (words r.shortToken.toList ++ slotWords j) := by
  have dash : ¬ isPlain (Variables.lower '-') := by decide
  have written : (base r j).toList =
      "runner".toList ++ '-' :: (r.shortToken.toList ++ '-' :: ("project".toList ++ '-' ::
        ((toString j.projectId).toList ++ '-' :: ("concurrent".toList ++ '-' ::
          (toString j.concurrentId).toList)))) := by
    simp [base]
  rw [written]
  simp only [words_append_cons dash, words_of_isWord isWord_runner, words_of_isWord isWord_project,
    words_of_isWord isWord_concurrent, words_of_isWord (isWord_toString _), slotWords,
    List.singleton_append]

theorem isWord_of_mem_tail {w : List Char} (h : w ∈ words r.shortToken.toList ++ slotWords j) :
    IsWord w :=
  (List.mem_append.1 h).elim isWord_of_mem_words isWord_of_mem_slotWords

theorem sanitize_base (r : Runner) (j : Job) :
    sanitize (base r j).toList =
      "runner".toList ++ '-' :: join (words r.shortToken.toList ++ slotWords j) := by
  have some : words r.shortToken.toList ++ slotWords j ≠ [] := by simp [slotWords]
  obtain ⟨w, ws, split⟩ := List.exists_cons_of_ne_nil some
  rw [sanitize_eq, words_base, if_neg (by simp), split, join_cons_cons]

/-! ## Stems -/

/-- A label of the domain name system: at most 63 small letters, digits and dashes, with no dash at
either end. -/
structure IsDomainLabel (s : List Char) : Prop where
  ne_nil : s ≠ []
  short : s.length ≤ 63
  alphabet : ∀ c ∈ s, isPlain c ∨ c = '-'
  head : ∀ c ∈ s.head?, isPlain c
  last : ∀ c ∈ s.getLast?, isPlain c

/-- What the cluster can complete to a label: a name that begins with `runner-`, and one dash. -/
structure IsStem (s : List Char) : Prop where
  start : "runner-".toList <+: s
  alphabet : ∀ c ∈ s, isPlain c ∨ c = '-'
  single : s.IsChain fun a b => a = '-' → b ≠ '-'
  last : s.getLast? = some '-'
  bytes : Utf8.size s ≤ 58
  completed : ∀ rest : List Char, rest.length = 5 → (∀ c ∈ rest, isPlain c) →
    IsDomainLabel (s ++ rest)

theorem Shaped.isStem (h : Shaped s) (start : "runner-".toList <+: s) (short : s.length ≤ 57) :
    IsStem (s ++ ['-']) := by
  have alphabet : ∀ c ∈ s ++ ['-'], isPlain c ∨ c = '-' := by
    intro c hc
    rcases List.mem_append.1 hc with hc | hc
    · exact h.alphabet c hc
    · exact .inr (List.mem_singleton.1 hc)
  refine {
    start := start.trans (List.prefix_append _ _)
    alphabet := alphabet
    single := ?_
    last := by simp
    bytes := by
      rw [Utf8.size_of_ascii (ascii_of_alphabet alphabet), List.length_append,
        List.length_singleton]
      omega
    completed := fun rest five plain => ?_ }
  · rw [List.isChain_append]
    refine ⟨h.single, List.isChain_singleton _, fun c hc _ _ dash => ?_⟩
    exact absurd dash (h.last c hc)
  · -- The completion is a word, so that stem and completion are joined like two names.
    have word : IsWord rest := ⟨List.ne_nil_of_length_pos (by omega), plain⟩
    have whole := h.dash word.shaped
    rw [List.append_assoc, List.singleton_append]
    exact {
      ne_nil := whole.ne_nil
      short := by
        rw [List.length_append, List.length_cons]
        omega
      alphabet := whole.alphabet
      head := fun c hc =>
        (whole.alphabet c (List.mem_of_mem_head? hc)).resolve_right (whole.head c hc)
      last := fun c hc =>
        (whole.alphabet c (List.mem_of_mem_getLast? hc)).resolve_right (whole.last c hc) }

/-- Whatever the token of the runner is, the cluster can complete the stem of a job's pods, and no
cut that is made in bytes on the way to it fails: neither that of the token nor, in a name that is
too long, those of its head and of the hash. -/
theorem isStem_generate (r : Runner) (j : Job) :
    IsStem (generate r j).toList ∧ r.shortToken? = some r.shortToken ∧
      limit? 57 (sanitize (base r j).toList) = some (limit 57 (sanitize (base r j).toList)) := by
  have shaped := shaped_sanitize (base r j).toList
  refine ⟨?_, r.shortToken?_eq, limit?_eq shaped 57⟩
  have start : "runner-".toList <+: limit 57 (sanitize (base r j).toList) := by
    have tail : Shaped (join (words r.shortToken.toList ++ slotWords j)) :=
      shaped_join (by simp [slotWords]) fun w hw => isWord_of_mem_tail hw
    obtain ⟨c, rest, split⟩ := List.exists_cons_of_ne_nil tail.ne_nil
    have bare : c ≠ '-' := tail.head c (by rw [split]; rfl)
    have kept : "runner-".toList ++ [c] <+: limit 57 (sanitize (base r j).toList) := by
      refine prefix_limit ⟨rest, ?_⟩ ?_ (by simp [hashLength])
      · rw [sanitize_base, split]
        simp
      · simpa using bare
    exact (List.prefix_append _ _).trans kept
  have named : (generate r j).toList = limit 57 (sanitize (base r j).toList) ++ ['-'] := by
    simp only [generate, maxLength, completionLength, String.toList_ofList]
  rw [named]
  exact (shaped.limit (by decide)).isStem start (length_limit_le (by decide) _)

/-! ## What a stem tells -/

/-- The normal form of a text: in small letters, with one dash for each run of characters outside
the alphabet of names and none at either end. -/
def normal (s : List Char) : List Char := join (words s)

theorem normal_eq_iff : normal s = normal t ↔ words s = words t :=
  join_inj (fun _ => isWord_of_mem_words) fun _ => isWord_of_mem_words

theorem generate_eq_iff_of_short (short₁ : (sanitize (base r₁ j₁).toList).length ≤ 57)
    (short₂ : (sanitize (base r₂ j₂).toList).length ≤ 57) :
    generate r₁ j₁ = generate r₂ j₂ ↔ words (base r₁ j₁).toList = words (base r₂ j₂).toList := by
  have whole {r : Runner} {j : Job} (short : (sanitize (base r j).toList).length ≤ 57) :
      generate r j = String.ofList (join (words (base r j).toList) ++ ['-']) := by
    have some : words (base r j).toList ≠ [] := by simp [words_base]
    have kept : limit 57 (sanitize (base r j).toList) = join (words (base r j).toList) := by
      rw [limit, if_pos short, sanitize_eq, if_neg some]
    simp only [generate, maxLength, completionLength, kept]
  rw [whole short₁, whole short₂]
  constructor
  · intro same
    have joined := List.append_cancel_right (String.ofList_injective same)
    exact (join_inj (fun _ => isWord_of_mem_words) fun _ => isWord_of_mem_words).1 joined
  · intro same
    rw [same]

theorem words_base_eq_iff : words (base r₁ j₁).toList = words (base r₂ j₂).toList ↔
    j₁.projectId = j₂.projectId ∧ j₁.concurrentId = j₂.concurrentId ∧
      normal r₁.shortToken.toList = normal r₂.shortToken.toList := by
  rw [words_base, words_base, normal_eq_iff, List.cons_inj_right]
  constructor
  · -- The last four words are the project's and the slot's, whatever words the token has.
    intro same
    have long : (slotWords j₁).length = (slotWords j₂).length := by simp [slotWords]
    obtain ⟨token, slot⟩ := List.append_inj' same long
    simp only [slotWords, List.cons.injEq, true_and, and_true, String.toList_inj,
      Nat.toString_eq_repr, Nat.repr_inj] at slot
    exact ⟨slot.1, slot.2, token⟩
  · rintro ⟨project, slot, token⟩
    rw [token, slotWords, slotWords, project, slot]

/-- As long as no name is shortened, two stems are the same if and only if they are of the same
project and slot and the runners' short tokens have the same normal form.  In particular, jobs that
differ in project or slot never share a stem, be it under one runner or under two. -/
theorem generate_eq_iff (short₁ : (sanitize (base r₁ j₁).toList).length ≤ 57)
    (short₂ : (sanitize (base r₂ j₂).toList).length ≤ 57) :
    (generate r₁ j₁ = generate r₂ j₂ ↔
      j₁.projectId = j₂.projectId ∧ j₁.concurrentId = j₂.concurrentId ∧
        normal r₁.shortToken.toList = normal r₂.shortToken.toList) ∧
    ((j₁.projectId, j₁.concurrentId) ≠ (j₂.projectId, j₂.concurrentId) →
      generate r₁ j₁ ≠ generate r₂ j₂) := by
  have told := (generate_eq_iff_of_short short₁ short₂).trans words_base_eq_iff
  refine ⟨told, fun differ same => differ ?_⟩
  obtain ⟨project, slot, -⟩ := told.1 same
  rw [project, slot]

/-- Tokens with the same words share a stem, and the next slot has another one. -/
theorem sample_stems :
    let r₁ : Runner := { name := "k8s", token := "aB_+1" }
    let r₂ : Runner := { name := "ci", token := "--Ab-1é9" }
    let j₁ : Job := { id := 99, projectId := 5, concurrentId := 0, buildDir := "/builds/5" }
    let j₂ : Job := { j₁ with id := 100, concurrentId := 1 }
    generate r₁ j₁ = generate { r₂ with token := "--Ab-1é" } j₁ ∧ generate r₁ j₁ ≠ generate r₁ j₂ ∧
      generate r₁ j₁ ≠ generate r₂ j₁ := by
  intro r₁ r₂ j₁ j₂
  have short₁ : (sanitize (base r₁ j₁).toList).length ≤ 57 := by decide +kernel
  have short₂ : (sanitize (base r₁ j₂).toList).length ≤ 57 := by decide +kernel
  have short₃ : (sanitize (base r₂ j₁).toList).length ≤ 57 := by decide +kernel
  have short₄ : (sanitize (base { r₂ with token := "--Ab-1é" } j₁).toList).length ≤ 57 := by
    decide +kernel
  refine ⟨(generate_eq_iff short₁ short₄).1.2 ⟨rfl, rfl, by decide +kernel⟩,
    (generate_eq_iff short₁ short₂).2 (by decide), fun same => ?_⟩
  have token := ((generate_eq_iff short₁ short₃).1.1 same).2.2
  revert token
  decide +kernel

end Name

end PodRunner
