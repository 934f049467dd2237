import PodRunner.Value

/-!
# Numerals of a JSON document

A numeral without point and exponent is a whole number if it fits in 64 bits, signed if it has a
sign; every other numeral is a floating-point number.  Its significand is the longest run of leading
digits that fits in 64 bits: further digits before the point count in the exponent, further digits
after it do not count at all.
-/

namespace PodRunner.Json

def isDigit (c : Char) : Bool := '0' ≤ c && c ≤ '9'

def digit (c : Char) : Nat := c.toNat - '0'.toNat

/-- The value of decimal digits. -/
def ofDigits (ds : List Char) : Nat := ds.foldl (fun n c => 10 * n + digit c) 0

/-- One bound above the whole numbers of 64 bits. -/
def wordBound : Nat := Nat.pow 2 64

/-- Takes digits while the value fits in 64 bits; answers the value, the number of digits taken and
the digits left. -/
def significand (acc taken : Nat) : List Char → Nat × Nat × List Char
  | [] => (acc, taken, [])
  | c :: cs =>
    if 10 * acc + digit c < wordBound then significand (10 * acc + digit c) (taken + 1) cs
    else (acc, taken, c :: cs)

/-- The parts of a numeral. -/
structure Numeral where
  negative : Bool
  whole : List Char
  fraction : Option (List Char)
  /-- The sign is true for a minus. -/
  exponent : Option (Bool × List Char)

namespace Numeral

/-- The significand and the power of ten of a numeral, its exponent part left aside. -/
def mantissa (n : Numeral) : Nat × Int :=
  match significand 0 0 n.whole with
  | (s, _, []) =>
    let (s, k, _) := significand s 0 (n.fraction.getD [])
    (s, -(k : Int))
  | (s, _, dropped) =>
    match significand s 0 (n.fraction.getD []) with
    | (s, k, _) => (s, (dropped.length : Int) - (k : Int))

/-- The floating-point value of the numeral, or `none` if it is too large. -/
def float? (n : Numeral) : Option Value :=
  let (s, e) := n.mantissa
  let e := match n.exponent with
    | none => e
    | some (minus, ds) => if minus then e - ofDigits ds else e + ofDigits ds
  (Binary64.ofScaled n.negative s e).map .float

/-- The value of the numeral, or `none` if it is too large. -/
def value? (n : Numeral) : Option Value :=
  match n.fraction, n.exponent with
  | none, none =>
    let whole := ofDigits n.whole
    if n.negative then
      if 0 < whole ∧ whole ≤ Nat.pow 2 63 then some (.int (-(whole : Int))) else n.float?
    else if whole < wordBound then some (.int whole)
    else n.float?
  | _, _ => n.float?

end Numeral

end PodRunner.Json
