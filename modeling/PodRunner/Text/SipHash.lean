import PodRunner.Text.Quoted

/-!
# SipHash

The keyed hash SipHash-1-3 of a list of bytes (one compression round per word of eight bytes, three
finishing rounds) with both keys zero, and the sixteen hexadecimal digits in which it is written.
-/

namespace PodRunner.SipHash

/-- The four words of the running state. -/
structure State where
  v0 : UInt64
  v1 : UInt64
  v2 : UInt64
  v3 : UInt64

/-- Rotation to the left by `k` bits, `0 < k < 64`. -/
def rotl (x : UInt64) (k : UInt64) : UInt64 := (x <<< k) ||| (x >>> (64 - k))

def round (s : State) : State :=
  let v0 := s.v0 + s.v1
  let v1 := rotl s.v1 13 ^^^ v0
  let v0 := rotl v0 32
  let v2 := s.v2 + s.v3
  let v3 := rotl s.v3 16 ^^^ v2
  let v0 := v0 + v3
  let v3 := rotl v3 21 ^^^ v0
  let v2 := v2 + v1
  let v1 := rotl v1 17 ^^^ v2
  let v2 := rotl v2 32
  ⟨v0, v1, v2, v3⟩

/-- The state of the two zero keys. -/
def start : State :=
  ⟨0x736f6d6570736575, 0x646f72616e646f6d, 0x6c7967656e657261, 0x7465646279746573⟩

/-- One round absorbs one word. -/
def absorb (s : State) (m : UInt64) : State :=
  let s := round { s with v3 := s.v3 ^^^ m }
  { s with v0 := s.v0 ^^^ m }

/-- The word whose bytes, lowest first, are given; at most eight count. -/
def word (bs : List UInt8) : UInt64 :=
  bs.foldr (fun b acc => (acc <<< 8) ||| b.toUInt64) 0

/-- Absorbs the whole words of the bytes and answers the state and the up to seven bytes left. -/
def blocks (s : State) : List UInt8 → State × List UInt8
  | b0 :: b1 :: b2 :: b3 :: b4 :: b5 :: b6 :: b7 :: rest =>
    blocks (absorb s (word [b0, b1, b2, b3, b4, b5, b6, b7])) rest
  | rest => (s, rest)

/-- The hash of the bytes.  The last word holds the bytes left over and, in its highest byte, the
length. -/
def hash (bs : List UInt8) : UInt64 :=
  let (s, rest) := blocks start bs
  let s := absorb s (word rest ||| ((UInt64.ofNat bs.length) <<< 56))
  let s := round (round (round { s with v2 := s.v2 ^^^ 0xff }))
  s.v0 ^^^ s.v1 ^^^ s.v2 ^^^ s.v3

/-- Sixteen lower case hexadecimal digits. -/
def digits (x : UInt64) : List Char :=
  let ds := Quoted.hex x.toNat
  List.replicate (16 - ds.length) '0' ++ ds

end PodRunner.SipHash
