/-!
# Bytes and text

`Utf8.encode` writes a text as UTF-8 bytes.  `Utf8.decode` reads any bytes back: each maximal part
that starts no character is read as one replacement character, so it answers for every input.
`Utf8.decode?` accepts well-formed bytes only.
-/

namespace PodRunner.Utf8

/-- The bytes of one code point below `0x110000`. -/
def encodeChar (c : Char) : List UInt8 :=
  let n := c.toNat
  if n < 0x80 then [.ofNat n]
  else if n < 0x800 then [.ofNat (0xC0 + n / 64), .ofNat (0x80 + n % 64)]
  else if n < 0x10000 then
    [.ofNat (0xE0 + n / 4096), .ofNat (0x80 + n / 64 % 64), .ofNat (0x80 + n % 64)]
  else
    [.ofNat (0xF0 + n / 262144), .ofNat (0x80 + n / 4096 % 64), .ofNat (0x80 + n / 64 % 64),
      .ofNat (0x80 + n % 64)]

/-- The bytes of a text. -/
def encodeChars (s : List Char) : List UInt8 := s.flatMap encodeChar

/-- The bytes of a text. -/
def encode (s : String) : List UInt8 := encodeChars s.toList

/-- What a byte can start: a whole character, or a character with `more` bytes to follow, the first
of them between `low` and `high`. -/
inductive Lead
  | single
  | multi (more low high : Nat)
  | bad

/-- The second byte is confined so that no character has two spellings, none is a surrogate and
none lies beyond the last code point. -/
def lead (b : Nat) : Lead :=
  if b < 0x80 then .single
  else if b < 0xC2 then .bad
  else if b < 0xE0 then .multi 1 0x80 0xBF
  else if b = 0xE0 then .multi 2 0xA0 0xBF
  else if b = 0xED then .multi 2 0x80 0x9F
  else if b < 0xF0 then .multi 2 0x80 0xBF
  else if b = 0xF0 then .multi 3 0x90 0xBF
  else if b < 0xF4 then .multi 3 0x80 0xBF
  else if b = 0xF4 then .multi 3 0x80 0x8F
  else .bad

/-- The bits that a leading byte contributes. -/
def leadBits (b more : Nat) : Nat :=
  match more with
  | 1 => b - 0xC0
  | 2 => b - 0xE0
  | _ => b - 0xF0

/-- Reads up to `more` continuation bytes, the first between `low` and `high`.  The answer is the
code point if they are all there, and what is left either way. -/
def tailBytes : (more low high acc : Nat) → List UInt8 → Option Nat × List UInt8
  | 0, _, _, acc, bs => (some acc, bs)
  | _ + 1, _, _, _, [] => (none, [])
  | more + 1, low, high, acc, b :: bs =>
    if low ≤ b.toNat ∧ b.toNat ≤ high then tailBytes more 0x80 0xBF (acc * 64 + (b.toNat - 0x80)) bs
    else (none, b :: bs)

theorem length_tailBytes_le (more low high acc : Nat) (bs : List UInt8) :
    (tailBytes more low high acc bs).2.length ≤ bs.length := by
  induction more generalizing low high acc bs with
  | zero => simp [tailBytes]
  | succ more ih =>
    cases bs with
    | nil => simp [tailBytes]
    | cons b bs =>
      simp only [tailBytes]
      split
      · exact Nat.le_trans (ih ..) (by simp)
      · simp

/-- One step of reading: a character, or `none` for a maximal ill-formed part, and what is left. -/
def next (b : UInt8) (bs : List UInt8) : Option Char × List UInt8 :=
  match lead b.toNat with
  | .single => (some (Char.ofNat b.toNat), bs)
  | .bad => (none, bs)
  | .multi more low high =>
    let r := tailBytes more low high (leadBits b.toNat more) bs
    (r.1.map Char.ofNat, r.2)

theorem length_next_le (b : UInt8) (bs : List UInt8) : (next b bs).2.length ≤ bs.length := by
  unfold next
  split
  · simp
  · simp
  · exact length_tailBytes_le ..

/-- The characters and ill-formed parts of the bytes, in order. -/
def parts : List UInt8 → List (Option Char)
  | [] => []
  | b :: bs =>
    have : (next b bs).2.length < bs.length + 1 := Nat.lt_succ_of_le (length_next_le b bs)
    (next b bs).1 :: parts (next b bs).2
  termination_by bs => bs.length

/-- Reads any bytes, each ill-formed part as one replacement character. -/
def decodeChars (bs : List UInt8) : List Char := (parts bs).map (·.getD '\uFFFD')

/-- Reads any bytes, each ill-formed part as one replacement character. -/
def decode (bs : List UInt8) : String := String.ofList (decodeChars bs)

/-- Reads well-formed bytes only. -/
def decode? (bs : List UInt8) : Option String :=
  ((parts bs).mapM id).map String.ofList

end PodRunner.Utf8
