import Mathlib
import PodRunner.Text.Utf8

/-!
# Text in bytes of any kind

Bytes are read as text from the front.  Where the encoding of a character stands, that character is
read; elsewhere the longest part that could still have become one, and a single byte if there is
none, is read as one replacement character (`Utf8.Lossy`).  Any bytes are read so in one way, and
`Utf8.decode` is that way (`Utf8.lossy_decode`, `Utf8.Lossy.decode_eq`).  In particular the encoding
of a text is read as that text (`Utf8.lossy_standard`).
-/

namespace PodRunner.Utf8

variable {b x y z : UInt8} {bs rest part conts : List UInt8} {c d : Char} {s t : List Char}
variable {more low high acc n : Nat}

/-! ## Reading, described by encodings -/

/-- The encoding of a character begins with these bytes. -/
def Begins (part : List UInt8) : Prop := ∃ c, part <+: String.utf8EncodeChar c

/-- No character stands at the beginning of `part ++ rest`, and `part` is the longest beginning of
it with which one could have begun; it is one byte if there is none. -/
structure Broken (part rest : List UInt8) : Prop where
  ne_nil : part ≠ []
  noChar : ∀ c, ¬ String.utf8EncodeChar c <+: part ++ rest
  begins : Begins part ∨ part.length = 1
  longest : ∀ longer, longer <+: part ++ rest → part.length < longer.length → ¬ Begins longer

/-- The bytes are read as this text: characters as themselves, and each longest broken part as one
replacement character. -/
inductive Lossy : List UInt8 → List Char → Prop
  | nil : Lossy [] []
  | char {c : Char} {rest : List UInt8} {s : List Char} : Lossy rest s →
    Lossy (String.utf8EncodeChar c ++ rest) (c :: s)
  | broken {part rest : List UInt8} {s : List Char} : Broken part rest → Lossy rest s →
    Lossy (part ++ rest) ('\uFFFD' :: s)

/-! ## What follows a leading byte -/

/-- Each is a continuation byte, the first one between these bounds. -/
def Tails : (low high : Nat) → List UInt8 → Prop
  | _, _, [] => True
  | low, high, b :: bs => (low ≤ b.toNat ∧ b.toNat ≤ high) ∧ Tails 0x80 0xBF bs

/-- The code point of the bits so far with those of continuation bytes after them. -/
def code (acc : Nat) (conts : List UInt8) : Nat :=
  conts.foldl (fun acc b => acc * 64 + (b.toNat - 0x80)) acc

theorem code_cons : code acc (b :: conts) = code (acc * 64 + (b.toNat - 0x80)) conts := by
  rw [code, code, List.foldl_cons]

theorem Tails.of_append (h : Tails low high (conts ++ rest)) : Tails low high conts := by
  induction conts generalizing low high with
  | nil => trivial
  | cons b conts ih => exact ⟨h.1, ih h.2⟩

theorem Tails.of_prefix (h : Tails low high conts) (start : part <+: conts) :
    Tails low high part := by
  obtain ⟨rest, rfl⟩ := start
  exact h.of_append

theorem tails_replicate (k : Nat) : Tails 0x80 0xBF (List.replicate k 0x80) := by
  induction k with
  | zero => trivial
  | succ k ih => exact ⟨by decide, ih⟩

theorem toNat_ofNat (byte : n < 256) : (UInt8.ofNat n).toNat = n := UInt8.toNat_ofNat_of_lt' byte

/-- Some bytes can be added to continuation bytes, as many as one likes. -/
theorem Tails.exists_append (h : Tails low high conts) (bounds : low ≤ high) (byte : high < 256)
    (k : Nat) : ∃ fill, fill.length = k ∧ Tails low high (conts ++ fill) := by
  induction conts generalizing low high with
  | nil =>
    cases k with
    | zero => exact ⟨[], rfl, trivial⟩
    | succ k =>
      refine ⟨UInt8.ofNat low :: List.replicate k 0x80, by simp, ⟨?_, tails_replicate k⟩⟩
      rw [toNat_ofNat (by omega)]
      omega
  | cons b conts ih =>
    obtain ⟨fill, long, tails⟩ := ih h.2 (by decide) (by decide)
    exact ⟨fill, long, h.1, tails⟩

theorem tailBytes_cons_of_mem (h : low ≤ b.toNat ∧ b.toNat ≤ high) :
    tailBytes (more + 1) low high acc (b :: bs) =
      tailBytes more 0x80 0xBF (acc * 64 + (b.toNat - 0x80)) bs := if_pos h

theorem tailBytes_cons_of_notMem (h : ¬ (low ≤ b.toNat ∧ b.toNat ≤ high)) :
    tailBytes (more + 1) low high acc (b :: bs) = (none, b :: bs) := if_neg h

theorem tailBytes_append (tails : Tails low high conts) (rest : List UInt8) :
    tailBytes conts.length low high acc (conts ++ rest) = (some (code acc conts), rest) := by
  induction conts generalizing low high acc with
  | nil => rfl
  | cons b conts ih =>
    rw [List.length_cons, List.cons_append, tailBytes_cons_of_mem tails.1, ih tails.2, code_cons]

/-- Reading continuation bytes ends with all of them or before the first one that is none. -/
theorem tailBytes_cases (more low high acc : Nat) (bs : List UInt8) :
    ∃ conts rest, bs = conts ++ rest ∧ Tails low high conts ∧
      (conts.length = more ∧ tailBytes more low high acc bs = (some (code acc conts), rest) ∨
        conts.length < more ∧ (∀ x ∈ rest.head?, ¬ Tails low high (conts ++ [x])) ∧
          tailBytes more low high acc bs = (none, rest)) := by
  induction more generalizing low high acc bs with
  | zero => exact ⟨[], bs, rfl, trivial, .inl ⟨rfl, rfl⟩⟩
  | succ more ih =>
    cases bs with
    | nil => exact ⟨[], [], rfl, trivial, .inr ⟨Nat.succ_pos _, nofun, rfl⟩⟩
    | cons b bs =>
      by_cases tail : low ≤ b.toNat ∧ b.toNat ≤ high
      · rw [tailBytes_cons_of_mem tail]
        obtain ⟨conts, rest, rfl, tails, ended⟩ := ih 0x80 0xBF (acc * 64 + (b.toNat - 0x80)) bs
        refine ⟨b :: conts, rest, rfl, ⟨tail, tails⟩, ?_⟩
        rcases ended with ⟨all, read⟩ | ⟨few, last, read⟩
        · exact .inl ⟨congrArg (· + 1) all, by rw [read, code_cons]⟩
        · exact .inr ⟨Nat.succ_lt_succ few, fun x hx h => last x hx h.2, read⟩
      · rw [tailBytes_cons_of_notMem tail]
        refine ⟨[], b :: bs, rfl, trivial, .inr ⟨Nat.succ_pos _, fun x hx h => ?_, rfl⟩⟩
        cases hx
        exact tail h.1

/-! ## Leading bytes and encodings -/

/-- The bytes that follow a leading byte in the encoding of a character. -/
def Follows : Lead → List UInt8 → Prop
  | .single, conts => conts = []
  | .multi more low high, conts => conts.length = more ∧ Tails low high conts
  | .bad, _ => False

theorem lead_one (h : n < 0x80) : lead n = .single := if_pos h

theorem lead_two (low : 0xC2 ≤ n) (high : n < 0xE0) : lead n = .multi 1 0x80 0xBF := by
  rw [lead, if_neg (by omega), if_neg (by omega), if_pos high]

theorem lead_three (low : 0xE0 ≤ n) (high : n < 0xF0) : lead n =
    .multi 2 (if n = 0xE0 then 0xA0 else 0x80) (if n = 0xED then 0x9F else 0xBF) := by
  obtain rfl | rfl | ⟨least, surrogate⟩ : n = 0xE0 ∨ n = 0xED ∨ n ≠ 0xE0 ∧ n ≠ 0xED := by omega
  · rfl
  · rfl
  · rw [lead, if_neg (by omega), if_neg (by omega), if_neg (by omega), if_neg least,
      if_neg surrogate, if_pos high, if_neg least, if_neg surrogate]

theorem lead_four (low : 0xF0 ≤ n) (high : n < 0xF5) : lead n =
    .multi 3 (if n = 0xF0 then 0x90 else 0x80) (if n = 0xF4 then 0x8F else 0xBF) := by
  obtain rfl | rfl | ⟨least, greatest⟩ : n = 0xF0 ∨ n = 0xF4 ∨ n ≠ 0xF0 ∧ n ≠ 0xF4 := by omega
  · rfl
  · rfl
  · rw [lead, if_neg (by omega), if_neg (by omega), if_neg (by omega), if_neg (by omega),
      if_neg (by omega), if_neg (by omega), if_neg least, if_pos (by omega), if_neg least,
      if_neg greatest]

theorem lead_bad (h : 0x80 ≤ n ∧ n < 0xC2 ∨ 0xF5 ≤ n) : lead n = .bad := by
  rcases h with ⟨low, high⟩ | high
  · rw [lead, if_neg (by omega), if_pos high]
  · rw [lead, if_neg (by omega), if_neg (by omega), if_neg (by omega), if_neg (by omega),
      if_neg (by omega), if_neg (by omega), if_neg (by omega), if_neg (by omega), if_neg (by omega)]

theorem lead_bounds (h : lead n = .multi more low high) : 0 < more ∧ low ≤ high ∧ high ≤ 0xBF := by
  unfold lead at h
  repeat' split at h
  all_goals cases h
  all_goals omega

theorem encodeChar_one (h : c.toNat < 0x80) : encodeChar c = [.ofNat c.toNat] := if_pos h

theorem encodeChar_two (low : 0x80 ≤ c.toNat) (high : c.toNat < 0x800) :
    encodeChar c = [.ofNat (0xC0 + c.toNat / 64), .ofNat (0x80 + c.toNat % 64)] := by
  rw [encodeChar, if_neg (by omega), if_pos high]

theorem encodeChar_three (low : 0x800 ≤ c.toNat) (high : c.toNat < 0x10000) :
    encodeChar c = [.ofNat (0xE0 + c.toNat / 4096), .ofNat (0x80 + c.toNat / 64 % 64),
      .ofNat (0x80 + c.toNat % 64)] := by
  rw [encodeChar, if_neg (by omega), if_neg (by omega), if_pos high]

theorem encodeChar_four (low : 0x10000 ≤ c.toNat) :
    encodeChar c = [.ofNat (0xF0 + c.toNat / 262144), .ofNat (0x80 + c.toNat / 4096 % 64),
      .ofNat (0x80 + c.toNat / 64 % 64), .ofNat (0x80 + c.toNat % 64)] := by
  rw [encodeChar, if_neg (by omega), if_neg (by omega), if_neg (by omega)]

theorem isValidChar_toNat (c : Char) : c.toNat.isValidChar := c.valid

theorem toNat_char_ofNat (valid : n.isValidChar) : (Char.ofNat n).toNat = n := by
  rw [Char.toNat_ofNat, if_pos valid]

theorem ofNat_eq_of_eq_toNat (h : n = b.toNat) : UInt8.ofNat n = b := by
  rw [h, UInt8.ofNat_toNat]

/-- The encoding of a character is the one that the standard library gives it. -/
theorem encodeChar_eq (c : Char) : encodeChar c = String.utf8EncodeChar c := by
  have valid := isValidChar_toNat c
  have same : c.val.toNat = c.toNat := rfl
  rcases Nat.lt_or_ge c.toNat 0x80 with one | more
  · rw [encodeChar_one one, String.utf8EncodeChar, same, if_pos (by omega)]
  rcases Nat.lt_or_ge c.toNat 0x800 with two | more
  · rw [encodeChar_two more two, String.utf8EncodeChar, same, if_neg (by omega), if_pos (by omega)]
    grind
  rcases Nat.lt_or_ge c.toNat 0x10000 with three | four
  · rw [encodeChar_three more three, String.utf8EncodeChar, same, if_neg (by omega),
      if_neg (by omega), if_pos (by omega)]
    grind
  · rw [encodeChar_four four, String.utf8EncodeChar, same, if_neg (by omega), if_neg (by omega),
      if_neg (by omega)]
    grind

/-- The code point of a whole encoding. -/
def codePoint (b : UInt8) (conts : List UInt8) : Nat :=
  if conts = [] then b.toNat else code (leadBits b.toNat conts.length) conts

theorem codePoint_two : codePoint b [x] = (b.toNat - 0xC0) * 64 + (x.toNat - 0x80) := rfl

theorem codePoint_three : codePoint b [x, y] =
    ((b.toNat - 0xE0) * 64 + (x.toNat - 0x80)) * 64 + (y.toNat - 0x80) := rfl

theorem codePoint_four : codePoint b [x, y, z] = (((b.toNat - 0xF0) * 64 + (x.toNat - 0x80)) * 64 +
    (y.toNat - 0x80)) * 64 + (z.toNat - 0x80) := rfl

/-! ## From bytes to characters -/

theorem encodeChar_of_two (first : 0xC2 ≤ b.toNat ∧ b.toNat < 0xE0)
    (hx : 0x80 ≤ x.toNat ∧ x.toNat ≤ 0xBF) : encodeChar (.ofNat (codePoint b [x])) = [b, x] := by
  have value := codePoint_two (b := b) (x := x)
  have char := toNat_char_ofNat (n := codePoint b [x]) (.inl (by omega))
  rw [encodeChar_two (by omega) (by omega), char, ofNat_eq_of_eq_toNat (b := b) (by omega),
    ofNat_eq_of_eq_toNat (b := x) (by omega)]

/-- The bounds of the second byte keep out what has a shorter encoding and what is no character. -/
theorem encodeChar_of_three (first : 0xE0 ≤ b.toNat ∧ b.toNat < 0xF0)
    (hx : 0x80 ≤ x.toNat ∧ x.toNat ≤ 0xBF) (least : b.toNat = 0xE0 → 0xA0 ≤ x.toNat)
    (surrogate : b.toNat = 0xED → x.toNat ≤ 0x9F) (hy : 0x80 ≤ y.toNat ∧ y.toNat ≤ 0xBF) :
    encodeChar (.ofNat (codePoint b [x, y])) = [b, x, y] := by
  have value := codePoint_three (b := b) (x := x) (y := y)
  have char := toNat_char_ofNat (n := codePoint b [x, y]) (by unfold Nat.isValidChar; omega)
  rw [encodeChar_three (by omega) (by omega), char, ofNat_eq_of_eq_toNat (b := b) (by omega),
    ofNat_eq_of_eq_toNat (b := x) (by omega), ofNat_eq_of_eq_toNat (b := y) (by omega)]

theorem encodeChar_of_four (first : 0xF0 ≤ b.toNat ∧ b.toNat < 0xF5)
    (hx : 0x80 ≤ x.toNat ∧ x.toNat ≤ 0xBF) (least : b.toNat = 0xF0 → 0x90 ≤ x.toNat)
    (greatest : b.toNat = 0xF4 → x.toNat ≤ 0x8F) (hy : 0x80 ≤ y.toNat ∧ y.toNat ≤ 0xBF)
    (hz : 0x80 ≤ z.toNat ∧ z.toNat ≤ 0xBF) :
    encodeChar (.ofNat (codePoint b [x, y, z])) = [b, x, y, z] := by
  have value := codePoint_four (b := b) (x := x) (y := y) (z := z)
  have char := toNat_char_ofNat (n := codePoint b [x, y, z]) (.inr (by omega))
  rw [encodeChar_four (by omega), char, ofNat_eq_of_eq_toNat (b := b) (by omega),
    ofNat_eq_of_eq_toNat (b := x) (by omega), ofNat_eq_of_eq_toNat (b := y) (by omega),
    ofNat_eq_of_eq_toNat (b := z) (by omega)]

/-- What follows a leading byte completes the encoding of the character that is read. -/
theorem encodeChar_codePoint (h : Follows (lead b.toNat) conts) :
    encodeChar (.ofNat (codePoint b conts)) = b :: conts := by
  -- The cases are those of the leading byte, of which some begin no encoding.
  rcases Nat.lt_or_ge b.toNat 0x80 with one | more
  · rw [lead_one one] at h
    cases h
    have char := toNat_char_ofNat (n := b.toNat) (.inl (by omega))
    rw [codePoint, if_pos rfl, encodeChar_one (by omega), char, UInt8.ofNat_toNat]
  rcases Nat.lt_or_ge b.toNat 0xC2 with bad | more
  · rw [lead_bad (.inl ⟨more, bad⟩)] at h
    cases h
  rcases Nat.lt_or_ge b.toNat 0xE0 with two | more
  · rw [lead_two more two] at h
    match conts, h with
    | [x], ⟨_, hx, _⟩ => exact encodeChar_of_two ⟨more, two⟩ hx
  rcases Nat.lt_or_ge b.toNat 0xF0 with three | more
  · rw [lead_three more three] at h
    match conts, h with
    | [x, y], ⟨_, hx, hy, _⟩ =>
      exact encodeChar_of_three ⟨more, three⟩ (by grind) (by grind) (by grind) hy
  rcases Nat.lt_or_ge b.toNat 0xF5 with four | bad
  · rw [lead_four more four] at h
    match conts, h with
    | [x, y, z], ⟨_, hx, hy, hz, _⟩ =>
      exact encodeChar_of_four ⟨more, four⟩ (by grind) (by grind) (by grind) hy hz
  · rw [lead_bad (.inr bad)] at h
    cases h

/-! ## From characters to bytes -/

/-- In the encoding of a character, what follows the leading byte is what may follow it, and tells
the character. -/
theorem follows_of_encodeChar (h : encodeChar c = b :: conts) :
    Follows (lead b.toNat) conts ∧ codePoint b conts = c.toNat := by
  have valid := isValidChar_toNat c
  unfold Nat.isValidChar at valid
  rcases Nat.lt_or_ge c.toNat 0x80 with one | more
  · rw [encodeChar_one one] at h
    cases h
    have byte := toNat_ofNat (n := c.toNat) (by omega)
    rw [byte, lead_one one]
    exact ⟨rfl, byte⟩
  rcases Nat.lt_or_ge c.toNat 0x800 with two | more
  · rw [encodeChar_two more two] at h
    cases h
    have first := toNat_ofNat (n := 0xC0 + c.toNat / 64) (by omega)
    have second := toNat_ofNat (n := 0x80 + c.toNat % 64) (by omega)
    rw [lead_two (by omega) (by omega), codePoint_two]
    exact ⟨⟨rfl, by omega, trivial⟩, by omega⟩
  rcases Nat.lt_or_ge c.toNat 0x10000 with three | four
  · rw [encodeChar_three more three] at h
    cases h
    have first := toNat_ofNat (n := 0xE0 + c.toNat / 4096) (by omega)
    have second := toNat_ofNat (n := 0x80 + c.toNat / 64 % 64) (by omega)
    have third := toNat_ofNat (n := 0x80 + c.toNat % 64) (by omega)
    rw [lead_three (by omega) (by omega), codePoint_three]
    refine ⟨⟨rfl, ?_, by omega, trivial⟩, by omega⟩
    split_ifs <;> omega
  · rw [encodeChar_four four] at h
    cases h
    have first := toNat_ofNat (n := 0xF0 + c.toNat / 262144) (by omega)
    have second := toNat_ofNat (n := 0x80 + c.toNat / 4096 % 64) (by omega)
    have third := toNat_ofNat (n := 0x80 + c.toNat / 64 % 64) (by omega)
    have fourth := toNat_ofNat (n := 0x80 + c.toNat % 64) (by omega)
    rw [lead_four (by omega) (by omega), codePoint_four]
    refine ⟨⟨rfl, ?_, by omega, by omega, trivial⟩, by omega⟩
    split_ifs <;> omega

/-! ## One step of reading -/

theorem exists_encodeChar (c : Char) : ∃ b conts, encodeChar c = b :: conts := by
  cases whole : encodeChar c with
  | nil =>
    rw [encodeChar_eq] at whole
    exact absurd whole String.utf8EncodeChar_ne_nil
  | cons b conts => exact ⟨b, conts, rfl⟩

theorem next_of_follows (h : Follows (lead b.toNat) conts) (rest : List UInt8) :
    next b (conts ++ rest) = (some (.ofNat (codePoint b conts)), rest) := by
  cases kind : lead b.toNat with
  | single =>
    rw [kind] at h
    cases h
    rw [next, kind, codePoint, if_pos rfl, List.nil_append]
  | multi more low high =>
    rw [kind] at h
    obtain ⟨rfl, tails⟩ := h
    have some : conts ≠ [] := List.ne_nil_of_length_pos (lead_bounds kind).1
    simp only [next, kind, tailBytes_append tails, Option.map_some, codePoint, if_neg some]
  | bad =>
    rw [kind] at h
    cases h

/-- Where the encoding of a character stands, the character is read. -/
theorem next_of_encodeChar (h : encodeChar c = b :: conts) (rest : List UInt8) :
    next b (conts ++ rest) = (some c, rest) := by
  obtain ⟨follows, point⟩ := follows_of_encodeChar h
  rw [next_of_follows follows, point, Char.ofNat_toNat]

/-- After the leading byte come some, but not all of the bytes that may follow it, and then one that
may not. -/
def Stops : Lead → (conts rest : List UInt8) → Prop
  | .single, _, _ => False
  | .multi more low high, conts, rest =>
    conts.length < more ∧ Tails low high conts ∧ ∀ x ∈ rest.head?, ¬ Tails low high (conts ++ [x])
  | .bad, conts, _ => conts = []

theorem next_cases (b : UInt8) (bs : List UInt8) : ∃ conts rest, bs = conts ++ rest ∧
    (Follows (lead b.toNat) conts ∧ next b bs = (some (.ofNat (codePoint b conts)), rest) ∨
      Stops (lead b.toNat) conts rest ∧ next b bs = (none, rest)) := by
  cases kind : lead b.toNat with
  | single =>
    have follows : Follows (lead b.toNat) [] := by
      rw [kind]
      rfl
    exact ⟨[], bs, rfl, .inl ⟨rfl, next_of_follows follows bs⟩⟩
  | multi more low high =>
    obtain ⟨conts, rest, rfl, tails, ended⟩ :=
      tailBytes_cases more low high (leadBits b.toNat more) bs
    refine ⟨conts, rest, rfl, ?_⟩
    rcases ended with ⟨all, -⟩ | ⟨few, last, read⟩
    · have follows : Follows (lead b.toNat) conts := by
        rw [kind]
        exact ⟨all, tails⟩
      exact .inl ⟨⟨all, tails⟩, next_of_follows follows rest⟩
    · refine .inr ⟨⟨few, tails, last⟩, ?_⟩
      simp only [next, kind, read, Option.map_none]
  | bad =>
    refine ⟨[], bs, rfl, .inr ⟨rfl, ?_⟩⟩
    rw [next, kind]

/-! ## Broken parts -/

variable {l : Lead} {longer part' rest' : List UInt8}

theorem exists_of_longer_prefix (start : longer <+: conts ++ rest)
    (long : conts.length < longer.length) : ∃ x ∈ rest.head?, conts ++ [x] <+: longer := by
  cases rest with
  | nil =>
    have := start.length_le
    rw [List.append_nil] at this
    omega
  | cons x rest =>
    refine ⟨x, rfl, ?_⟩
    have next : conts ++ [x] <+: conts ++ x :: rest := ⟨rest, by simp⟩
    exact List.prefix_of_prefix_length_le next start (by simpa using long)

theorem Stops.length_lt (h : Stops l conts rest) (follows : Follows l longer) :
    conts.length < longer.length := by
  cases l with
  | single => cases h
  | multi more low high =>
    rw [follows.1]
    exact h.1
  | bad => cases follows

/-- Where reading stops, what may follow the leading byte does not go on. -/
theorem Stops.not_follows (h : Stops l conts rest) (start : longer <+: conts ++ rest)
    (long : conts.length < longer.length) (more : List UInt8) : ¬ Follows l (longer ++ more) := by
  intro follows
  cases l with
  | single => cases h
  | multi _ low high =>
    obtain ⟨x, hx, goesOn⟩ := exists_of_longer_prefix start long
    exact h.2.2 x hx (follows.2.of_append.of_prefix goesOn)
  | bad => cases follows

/-- What was read until reading stopped can be completed, if anything may follow the leading
byte. -/
theorem Stops.exists_follows (h : Stops (lead n) conts rest) :
    (∃ fill, Follows (lead n) (conts ++ fill)) ∨ conts = [] := by
  cases kind : lead n with
  | single =>
    rw [kind] at h
    cases h
  | multi more low high =>
    rw [kind] at h
    obtain ⟨few, tails, -⟩ := h
    obtain ⟨-, bounds, byte⟩ := lead_bounds kind
    obtain ⟨fill, long, tails⟩ := tails.exists_append bounds (by omega) (more - conts.length)
    refine .inl ⟨fill, ?_, tails⟩
    rw [List.length_append]
    omega
  | bad =>
    rw [kind] at h
    exact .inr h

/-- What is read as broken is a longest broken part. -/
theorem Stops.broken (h : Stops (lead b.toNat) conts rest) : Broken (b :: conts) rest where
  ne_nil := List.cons_ne_nil b conts
  noChar c := by
    rintro ⟨rest', start⟩
    obtain ⟨d, all, whole⟩ := exists_encodeChar c
    rw [← encodeChar_eq, whole] at start
    obtain ⟨rfl, goesOn⟩ := List.cons_eq_cons.1 start
    have follows := (follows_of_encodeChar whole).1
    refine h.not_follows ⟨rest', goesOn⟩ (h.length_lt follows) [] ?_
    rwa [List.append_nil]
  begins := by
    rcases h.exists_follows with ⟨fill, follows⟩ | rfl
    · have whole := encodeChar_codePoint follows
      rw [encodeChar_eq] at whole
      exact .inl ⟨_, fill, whole.symm⟩
    · exact .inr rfl
  longest longer start long := by
    rintro ⟨c, more, whole⟩
    rw [← encodeChar_eq] at whole
    cases longer with
    | nil => exact absurd long (Nat.not_lt_zero _)
    | cons d longer =>
      obtain ⟨rfl, goesOn⟩ := List.cons_prefix_cons.1 start
      have follows := (follows_of_encodeChar whole.symm).1
      exact h.not_follows goesOn (Nat.lt_of_succ_lt_succ long) more follows

theorem Broken.length_le (h : Broken part rest) (h' : Broken part' rest')
    (same : part ++ rest = part' ++ rest') : part'.length ≤ part.length := by
  by_contra longer
  have none : ¬ Begins part' := h.longest part' ⟨rest', same.symm⟩ (Nat.lt_of_not_le longer)
  have single := h'.begins.resolve_left none
  have some := List.length_pos_of_ne_nil h.ne_nil
  omega

/-- Bytes have only one longest broken part at their beginning. -/
theorem Broken.eq (h : Broken part rest) (h' : Broken part' rest')
    (same : part ++ rest = part' ++ rest') : part = part' ∧ rest = rest' :=
  List.append_inj same (Nat.le_antisymm (h'.length_le h same.symm) (h.length_le h' same))

/-! ## All bytes -/

theorem decodeChars_cons (b : UInt8) (bs : List UInt8) : decodeChars (b :: bs) =
    (next b bs).1.getD '\uFFFD' :: decodeChars (next b bs).2 := by
  rw [decodeChars, parts]
  rfl

theorem lossy_decodeChars (bs : List UInt8) : Lossy bs (decodeChars bs) := by
  -- By induction on the length, as reading goes on after all bytes of a part.
  induction long : bs.length using Nat.strong_induction_on generalizing bs with
  | _ k ih =>
    cases bs with
    | nil =>
      rw [decodeChars, parts]
      exact .nil
    | cons b bs =>
      obtain ⟨conts, rest, rfl, ended⟩ := next_cases b bs
      have later : Lossy rest (decodeChars rest) := by
        refine ih rest.length ?_ rest rfl
        rw [← long, List.length_cons, List.length_append]
        omega
      rw [decodeChars_cons, ← List.cons_append]
      rcases ended with ⟨follows, read⟩ | ⟨stops, read⟩
      · have whole := encodeChar_codePoint follows
        rw [encodeChar_eq] at whole
        rw [read, ← whole]
        exact .char later
      · rw [read]
        exact .broken stops.broken later

theorem Lossy.decodeChars_eq (h : Lossy bs s) : decodeChars bs = s := by
  induction h with
  | nil =>
    rw [decodeChars, parts]
    rfl
  | @char c rest s _ ih =>
    obtain ⟨b, conts, whole⟩ := exists_encodeChar c
    rw [← encodeChar_eq, whole, List.cons_append, decodeChars_cons, next_of_encodeChar whole, ih]
    rfl
  | @broken part rest s broken _ ih =>
    obtain ⟨b, bytes, rfl⟩ := List.exists_cons_of_ne_nil broken.ne_nil
    obtain ⟨conts, rest', split, ⟨follows, -⟩ | ⟨stops, read⟩⟩ := next_cases b (bytes ++ rest)
    · -- A character would have been read, but none stands where the part is broken.
      refine absurd ⟨rest', ?_⟩ (broken.noChar (.ofNat (codePoint b conts)))
      rw [← encodeChar_eq, encodeChar_codePoint follows, List.cons_append, List.cons_append, split]
    · obtain ⟨-, rfl⟩ := broken.eq stops.broken (congrArg (b :: ·) split)
      rw [List.cons_append, decodeChars_cons, read, ih]
      rfl

theorem lossy_flatMap (s : List Char) : Lossy (s.flatMap String.utf8EncodeChar) s := by
  induction s with
  | nil => exact .nil
  | cons c s ih => exact .char ih

/-- The bytes with which the standard library encodes a text. -/
def standard (s : String) : List UInt8 := s.toByteArray.data.toList

theorem standard_eq (s : String) : standard s = s.toList.flatMap String.utf8EncodeChar := by
  rw [standard, ← String.utf8Encode_toList]
  exact List.toList_data_toByteArray

theorem encode_eq (s : String) : encode s = standard s := by
  rw [encode, encodeChars, standard_eq, funext encodeChar_eq]

/-- The encoding of a text is read as that text. -/
theorem lossy_standard (s : String) : Lossy (standard s) s.toList := by
  rw [standard_eq]
  exact lossy_flatMap s.toList

theorem lossy_decode (bs : List UInt8) : Lossy bs (decode bs).toList := by
  rw [decode, String.toList_ofList]
  exact lossy_decodeChars bs

theorem Lossy.decode_eq {text : String} (h : Lossy bs text.toList) : decode bs = text := by
  rw [decode, h.decodeChars_eq, String.ofList_toList]

end PodRunner.Utf8
