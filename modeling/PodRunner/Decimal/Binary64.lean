/-!
# Binary floating-point numbers

A finite number of the 64-bit binary format as a sign, a mantissa below `2 ^ 53` and a power of two,
and the rounding of exact ratios to it: to the nearest number, a tie to the even mantissa.
`Binary64.ofDecimal` rounds a decimal numeral once; `Binary64.ofScaled` rounds the significand and
the power of ten first and their product or quotient after that.
-/

namespace PodRunner

/-- The number `± mantissa * 2 ^ exponent`.  The mantissa is below `2 ^ 53`, and at least `2 ^ 52`
unless the exponent is the least one, `-1074`. -/
structure Binary64 where
  negative : Bool
  mantissa : Nat
  exponent : Int
  deriving DecidableEq, Repr, Inhabited

namespace Binary64

def leastExponent : Int := -1074

/-- The exponent of the largest finite numbers. -/
def greatestExponent : Int := 971

def zero (negative : Bool) : Binary64 := ⟨negative, 0, leastExponent⟩

/-- `num / den` to the nearest whole number, a tie to the even one. -/
def roundDiv (num den : Nat) : Nat :=
  let q := num / den
  let r := num % den
  if 2 * r < den then q
  else if den < 2 * r then q + 1
  else if q % 2 = 0 then q else q + 1

/-- `num / den * 2 ^ (-e)` as a ratio. -/
def scale (num den : Nat) (e : Int) : Nat × Nat :=
  if 0 ≤ e then (num, den * Nat.pow 2 e.toNat) else (num * Nat.pow 2 (-e).toNat, den)

/-- The exponent at which `num / den` has a mantissa of 53 bits, or the least exponent. -/
def exponentOf (num den : Nat) : Int :=
  let guess : Int := (Nat.log2 num : Int) - (Nat.log2 den : Int) - 52
  let (n, d) := scale num den guess
  let e := if n < d * Nat.pow 2 52 then guess - 1 else guess
  max e leastExponent

/-- The number nearest to `num / den`, or `none` if it is too large. -/
def ofRatio (negative : Bool) (num den : Nat) : Option Binary64 :=
  if num = 0 then some (zero negative)
  else
    let e := exponentOf num den
    let (n, d) := scale num den e
    let m := roundDiv n d
    let (m, e) := if m = Nat.pow 2 53 then (Nat.pow 2 52, e + 1) else (m, e)
    if greatestExponent < e then none else some ⟨negative, m, e⟩

/-- The magnitude as a ratio. -/
def ratio (x : Binary64) : Nat × Nat :=
  if 0 ≤ x.exponent then (x.mantissa * Nat.pow 2 x.exponent.toNat, 1)
  else (x.mantissa, Nat.pow 2 (-x.exponent).toNat)

/-- The number nearest to `digits * 10 ^ exponent`, or `none` if it is too large.  Exponents beyond
the reach of the digits are decided without computing the power. -/
def ofDecimal (negative : Bool) (digits : Nat) (exponent : Int) : Option Binary64 :=
  if digits = 0 then some (zero negative)
  else if 400 < exponent then none
  else if exponent < -400 - (Nat.log2 digits : Int) then some (zero negative)
  else if 0 ≤ exponent then ofRatio negative (digits * Nat.pow 10 exponent.toNat) 1
  else ofRatio negative digits (Nat.pow 10 (-exponent).toNat)

/-- The power of ten with exponent at most 308, rounded. -/
def powerOfTen (n : Nat) : Nat × Nat :=
  ((ofRatio false (Nat.pow 10 n) 1).getD (zero false)).ratio

/-- Divides by `10 ^ 308` until the remaining power of ten is within the table of powers. -/
def divideDown : Nat → Binary64 → Nat → Binary64
  | 0, x, _ => x
  | fuel + 1, x, n =>
    let by_ (k : Nat) : Binary64 :=
      let (a, b) := x.ratio
      let (c, d) := powerOfTen k
      (ofRatio false (a * d) (b * c)).getD x
    if n ≤ 308 then by_ n
    else if x.mantissa = 0 then x
    else divideDown fuel (by_ 308) (n - 308)

/-- `significand * 10 ^ exponent` computed in two rounded steps, or `none` if it is too large. -/
def ofScaled (negative : Bool) (significand : Nat) (exponent : Int) : Option Binary64 := do
  let x ← ofRatio false significand 1
  let y ←
    if 0 ≤ exponent then
      if exponent ≤ 308 then
        let (a, b) := x.ratio
        let (c, d) := powerOfTen exponent.toNat
        ofRatio false (a * c) (b * d)
      else if significand = 0 then some x
      else none
    else some (divideDown 4 x (-exponent).toNat)
  return { y with negative }

end Binary64

end PodRunner
