import PodRunner.Decimal.Binary64

/-!
# Shortest decimal numerals

`Shortest.digits` answers, for a positive binary number, the fewest decimal digits that read back as
that number, and of those the nearest.  The search tests, for one digit, two digits and so on, the
two neighbours of the number on the decimal grid of that width.  `Shortest.text` writes the digits:
with a point for decimal exponents from -5 to 15, and with an exponent beyond.
-/

namespace PodRunner.Shortest

open Binary64

/-- The number `digits * 10 ^ exponent`. -/
structure Numeral where
  digits : Nat
  exponent : Int

/-- The interval of reals that round to a number, and the number itself, as whole multiples of one
small unit `1 / den`. -/
structure Interval where
  low : Nat
  mid : Nat
  high : Nat
  den : Nat
  closed : Bool

/-- In quarters of the last place: below a power of two the spacing is half as wide. -/
def interval (x : Binary64) : Interval :=
  let narrow := x.mantissa = Nat.pow 2 52 ∧ leastExponent < x.exponent
  let m := 4 * x.mantissa
  let low := if narrow then m - 1 else m - 2
  let closed := x.mantissa % 2 = 0
  if 0 ≤ x.exponent then
    let p := Nat.pow 2 x.exponent.toNat
    ⟨low * p, m * p, (m + 2) * p, 4, closed⟩
  else ⟨low, m, m + 2, 4 * Nat.pow 2 (-x.exponent).toNat, closed⟩

/-- `d * 10 ^ k` lies in the interval. -/
def Interval.mem (i : Interval) (d : Nat) (k : Int) : Bool :=
  let v := if 0 ≤ k then d * Nat.pow 10 k.toNat * i.den else d * i.den
  let s := if 0 ≤ k then 1 else Nat.pow 10 (-k).toNat
  if i.closed then i.low * s ≤ v && v ≤ i.high * s else i.low * s < v && v < i.high * s

/-- The neighbour of the number on the grid of multiples of `10 ^ k` that lies in the interval; of
two the nearer, and the even one in the middle. -/
def onGrid (i : Interval) (k : Int) : Option Nat :=
  let num := if 0 ≤ k then i.mid else i.mid * Nat.pow 10 (-k).toNat
  let den := if 0 ≤ k then i.den * Nat.pow 10 k.toNat else i.den
  let below := num / den
  let nearest := roundDiv num den
  let other := if nearest = below then below + 1 else below
  if i.mem nearest k && 0 < nearest then some nearest
  else if i.mem other k && 0 < other then some other
  else none

/-- Drops the zeros at the end. -/
def strip : Nat → Numeral → Numeral
  | 0, n => n
  | fuel + 1, n =>
    if n.digits ≠ 0 ∧ n.digits % 10 = 0 then strip fuel ⟨n.digits / 10, n.exponent + 1⟩ else n

/-- Tries grids from coarse to fine. -/
def search (i : Interval) : Nat → Int → Numeral
  | 0, k => ⟨i.mid / i.den, k⟩
  | fuel + 1, k =>
    match onGrid i k with
    | some d => ⟨d, k⟩
    | none => search i fuel (k - 1)

/-- An exponent of ten at which the magnitude has at most one digit. -/
def topExponent (x : Binary64) : Int :=
  ((Nat.log2 x.mantissa : Int) + x.exponent + 1) * 30103 / 100000 + 1

def numeral (x : Binary64) : Numeral :=
  strip 20 (search (interval x) 25 (topExponent x))

/-- Positive digits written positionally or with an exponent. -/
def write (n : Numeral) : String :=
  let ds := Nat.toDigits 10 n.digits
  let len : Int := ds.length
  let sci := n.exponent + len - 1
  if -5 ≤ sci ∧ sci ≤ 15 then
    if 0 ≤ n.exponent then
      String.ofList (ds ++ List.replicate n.exponent.toNat '0' ++ ['.', '0'])
    else if 0 ≤ sci then
      let whole := (sci + 1).toNat
      String.ofList (ds.take whole ++ ['.'] ++ ds.drop whole)
    else String.ofList (['0', '.'] ++ List.replicate (-sci - 1).toNat '0' ++ ds)
  else
    let mant := match ds with
      | [] => []
      | [d] => [d]
      | d :: rest => d :: '.' :: rest
    let sign := if 0 ≤ sci then "+" else "-"
    String.ofList mant ++ "e" ++ sign ++ toString sci.natAbs

/-- The written form of a number. -/
def text (x : Binary64) : String :=
  let sign := if x.negative then "-" else ""
  if x.mantissa = 0 then sign ++ "0.0" else sign ++ write (numeral x)

end PodRunner.Shortest
