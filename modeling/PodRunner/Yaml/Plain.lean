import PodRunner.Decimal.Binary64
import PodRunner.Value
import PodRunner.Yaml.Scalar

/-!
# What plain scalars mean

A plain scalar is read as null, a truth value, a whole number or a floating-point number if it has
the form of one, and else as a text.  Whole numbers may be written in base 2, 8 or 16; a decimal
number with a leading zero is a text.
-/

namespace PodRunner.Yaml.Plain

def isNull (s : String) : Bool := ["null", "Null", "NULL", "~"].contains s

def bool? (s : String) : Option Bool :=
  if ["true", "True", "TRUE"].contains s then some true
  else if ["false", "False", "FALSE"].contains s then some false
  else none

def isSign (c : Char) : Bool := c = '+' || c = '-'

/-- Digits with a leading zero, perhaps after a sign. -/
def zeroLed (s : List Char) : Bool :=
  let digits := if s.head?.any isSign then s.drop 1 else s
  1 < digits.length && digits.head? = some '0' && digits.all Char.isDigit

/-- The number that digits of a base denote; there must be one. -/
def digits? (base : Nat) (s : List Char) : Option Nat :=
  if s.isEmpty then none
  else s.foldlM (fun n c => do
    let d ← hexDigit? c
    if d < base then some (base * n + d) else none) 0

/-- The base that a text names at its beginning, and what follows. -/
def based? (s : List Char) : Option (Nat × List Char) :=
  match s with
  | '0' :: 'x' :: s => some (16, s)
  | '0' :: 'o' :: s => some (8, s)
  | '0' :: 'b' :: s => some (2, s)
  | _ => none

/-- A number without its sign. -/
def magnitude? (s : List Char) : Option Nat :=
  match based? s with
  | some (base, digits) => digits? base digits
  | none => digits? 10 s

/-- A whole number that is not negative; it may have a plus sign. -/
def natural? (s : String) : Option Nat :=
  let s := s.toList
  if zeroLed s then none
  else magnitude? (if s.head? = some '+' then s.drop 1 else s)

/-- A whole number with a minus sign. -/
def negative? (s : String) : Option Nat :=
  match s.toList with
  | '-' :: s => if zeroLed s then none else magnitude? s
  | _ => none

/-- A decimal number: digits with a point among them or not, and perhaps an exponent. -/
def decimal? (s : List Char) : Option Binary64 := do
  let (negative, s) := match s with
    | '-' :: s => (true, s)
    | s => (false, s)
  let (whole, s) := (s.takeWhile Char.isDigit, s.dropWhile Char.isDigit)
  let (fraction, s) := match s with
    | '.' :: s => (s.takeWhile Char.isDigit, s.dropWhile Char.isDigit)
    | s => ([], s)
  let digits ← digits? 10 (whole ++ fraction)
  let exponent : Int ← match s with
    | [] => some 0
    | e :: s =>
      if e = 'e' || e = 'E' then
        match s with
        | '-' :: s => (digits? 10 s).map fun n => -(n : Int)
        | '+' :: s => (digits? 10 s).map Int.ofNat
        | s => (digits? 10 s).map Int.ofNat
      else none
  Binary64.ofDecimal negative digits (exponent - fraction.length)

/-- The spellings of the values that are no numbers, after their point. -/
def infinities : List (List Char) := ["inf", "Inf", "INF"].map String.toList

def nans : List (List Char) := ["nan", "NaN", "NAN"].map String.toList

/-- What a floating-point numeral denotes. -/
inductive Real where
  | number (x : Binary64)
  | infinity (negative : Bool)
  /-- What is no number. -/
  | undefined

namespace Real

/-- Null stands for infinities and for what is no number. -/
def value : Real → Value
  | .number x => .float x
  | _ => .null

/-- Zero has no sign that counts, and what is no number is the same as itself. -/
def same : Real → Real → Bool
  | .number x, .number y => x = y || (x.mantissa = 0 && y.mantissa = 0)
  | .infinity a, .infinity b => a = b
  | .undefined, .undefined => true
  | _, _ => false

end Real

/-- A floating-point number.  A numeral that is too large is none. -/
def real? (s : String) : Option Real :=
  match s.toList with
  | '.' :: name =>
    if infinities.contains name then some (.infinity false)
    else if nans.contains name then some .undefined
    else (decimal? ('.' :: name)).map .number
  | '-' :: '.' :: name =>
    if infinities.contains name then some (.infinity true)
    else (decimal? ('-' :: '.' :: name)).map .number
  | '+' :: '.' :: name =>
    if infinities.contains name then some (.infinity false)
    else (decimal? ('.' :: name)).map .number
  | '+' :: s => if s.head?.any isSign then none else (decimal? s).map .number
  | s => (decimal? s).map .number

/-- A whole number, if it has at most 64 bits; nothing has the range between that and 128 bits. -/
def int? (s : String) : Option (Option Int) :=
  match natural? s, negative? s with
  | some n, _ =>
    if n < Nat.pow 2 64 then some (some n) else if n < Nat.pow 2 128 then some none else none
  | none, some n =>
    if n ≤ Nat.pow 2 63 then some (some (-n)) else if n ≤ Nat.pow 2 127 then some none else none
  | none, none => none

/-- What a scalar means. -/
inductive Meaning where
  | null
  | bool (b : Bool)
  | int (n : Int)
  | real (x : Real)
  | text (s : String)

namespace Meaning

def value : Meaning → Value
  | null => .null
  | bool b => .bool b
  | int n => .int n
  | real x => x.value
  | text s => .text s

def same : Meaning → Meaning → Bool
  | null, null => true
  | bool a, bool b => a = b
  | int m, int n => m = n
  | real x, real y => x.same y
  | text s, text t => s = t
  | _, _ => false

end Meaning

/-- What a plain scalar means, if it means something. -/
def meaning? (s : String) : Option Meaning :=
  if s.isEmpty || isNull s then some .null
  else
    match bool? s with
    | some b => some (.bool b)
    | none =>
      match int? s with
      | some n? => n?.map .int
      | none =>
        some (((if zeroLed s.toList then none else real? s).map .real).getD (.text s))

end PodRunner.Yaml.Plain
