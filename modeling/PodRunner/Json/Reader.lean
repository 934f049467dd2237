import PodRunner.Decode
import PodRunner.Json.Number

/-!
# Reading JSON texts

A JSON text is read in two steps.  `Json.Node.parse?` reads a text that is exactly one value with
white space around it.  What such a value means is decided when it is looked at (`Place`): a numeral
that is too large, half of a pair of units, and lists and objects that are nested more than 127 deep
do no harm where nobody looks.  `Json.parse?` looks at everything.

Each reader takes the characters still to be read and answers a result and what is left, or `none`
if the text has no such beginning.
-/

namespace PodRunner.Json

def isSpace (c : Char) : Bool := c = ' ' || c = '\n' || c = '\t' || c = '\r'

def skipSpace (cs : List Char) : List Char := cs.dropWhile isSpace

/-- Drops a given beginning. -/
def literal? : List Char → List Char → Option (List Char)
  | [], cs => some cs
  | w :: ws, c :: cs => if w = c then literal? ws cs else none
  | _ :: _, [] => none

/-- One or more digits. -/
def digits? (cs : List Char) : Option (List Char × List Char) :=
  match cs.takeWhile isDigit with
  | [] => none
  | ds => some (ds, cs.dropWhile isDigit)

/-- Digits without a leading zero, or a zero alone. -/
def whole? : List Char → Option (List Char × List Char)
  | '0' :: c :: cs => if isDigit c then none else some (['0'], c :: cs)
  | cs => digits? cs

def fraction? : List Char → Option (Option (List Char) × List Char)
  | '.' :: cs => (digits? cs).map fun (ds, cs) => (some ds, cs)
  | cs => some (none, cs)

def signedDigits? : List Char → Option ((Bool × List Char) × List Char)
  | '+' :: cs => (digits? cs).map fun (ds, cs) => ((false, ds), cs)
  | '-' :: cs => (digits? cs).map fun (ds, cs) => ((true, ds), cs)
  | cs => (digits? cs).map fun (ds, cs) => ((false, ds), cs)

def exponent? : List Char → Option (Option (Bool × List Char) × List Char)
  | c :: cs =>
    if c = 'e' ∨ c = 'E' then (signedDigits? cs).map fun (e, cs) => (some e, cs)
    else some (none, c :: cs)
  | [] => some (none, [])

def numeral? (cs : List Char) : Option (Numeral × List Char) := do
  let (negative, cs) := match cs with
    | '-' :: cs => (true, cs)
    | cs => (false, cs)
  let (whole, cs) ← whole? cs
  let (fraction, cs) ← fraction? cs
  let (exponent, cs) ← exponent? cs
  return (⟨negative, whole, fraction, exponent⟩, cs)

/-- The value of a hexadecimal digit. -/
def hexDigit? (c : Char) : Option Nat :=
  if '0' ≤ c ∧ c ≤ '9' then some (c.toNat - '0'.toNat)
  else if 'a' ≤ c ∧ c ≤ 'f' then some (c.toNat - 'a'.toNat + 10)
  else if 'A' ≤ c ∧ c ≤ 'F' then some (c.toNat - 'A'.toNat + 10)
  else none

/-- Four hexadecimal digits. -/
def unit? : List Char → Option (Nat × List Char)
  | a :: b :: c :: d :: cs => do
    let a ← hexDigit? a
    let b ← hexDigit? b
    let c ← hexDigit? c
    let d ← hexDigit? d
    return (((a * 16 + b) * 16 + c) * 16 + d, cs)
  | _ => none

/-- The character of one unit, or of two that form a pair; half of a pair is none. -/
def codePoint? (cs : List Char) : Option (Option Char × List Char) := do
  let (n, cs) ← unit? cs
  if 0xDC00 ≤ n ∧ n ≤ 0xDFFF then return (none, cs)
  else if 0xD800 ≤ n ∧ n ≤ 0xDBFF then
    match cs with
    | '\\' :: 'u' :: rest =>
      let (m, rest) ← unit? rest
      if 0xDC00 ≤ m ∧ m ≤ 0xDFFF then
        return (some (Char.ofNat (0x10000 + (n - 0xD800) * 0x400 + (m - 0xDC00))), rest)
      else return (none, cs)
    | _ => return (none, cs)
  else return (some (Char.ofNat n), cs)

def escape? : List Char → Option (Option Char × List Char)
  | '"' :: cs => some (some '"', cs)
  | '\\' :: cs => some (some '\\', cs)
  | '/' :: cs => some (some '/', cs)
  | 'b' :: cs => some (some '\x08', cs)
  | 'f' :: cs => some (some '\x0c', cs)
  | 'n' :: cs => some (some '\n', cs)
  | 'r' :: cs => some (some '\r', cs)
  | 't' :: cs => some (some '\t', cs)
  | 'u' :: cs => codePoint? cs
  | _ => none

/-- The text up to its closing quote; `done` holds its characters so far in reverse order, if all of
them are characters. -/
def text? : Nat → (done : Option (List Char)) → List Char → Option (Option String × List Char)
  | 0, _, _ => none
  | _, _, [] => none
  | fuel + 1, done, c :: cs =>
    if c = '"' then some (done.map fun done => String.ofList done.reverse, cs)
    else if c = '\\' then do
      let (c, cs) ← escape? cs
      text? fuel (match done, c with
        | some done, some c => some (c :: done)
        | _, _ => none) cs
    else if c.toNat < 0x20 then none
    else text? fuel (done.map (c :: ·)) cs

/-- A value as it is written. -/
inductive Node where
  | null
  | bool (b : Bool)
  | number (n : Numeral)
  /-- A text; none if it holds half of a pair of units. -/
  | text (s : Option String)
  | list (items : List Node)
  | object (fields : List (Option String × Node))

mutual

/-- A value. -/
def value? : Nat → List Char → Option (Node × List Char)
  | 0, _ => none
  | fuel + 1, cs =>
    match skipSpace cs with
    | 'n' :: cs => (literal? ['u', 'l', 'l'] cs).map fun cs => (.null, cs)
    | 't' :: cs => (literal? ['r', 'u', 'e'] cs).map fun cs => (.bool true, cs)
    | 'f' :: cs => (literal? ['a', 'l', 's', 'e'] cs).map fun cs => (.bool false, cs)
    | '"' :: cs => (text? (fuel + 1) (some []) cs).map fun (s, cs) => (.text s, cs)
    | '[' :: cs =>
      match skipSpace cs with
      | ']' :: cs => some (.list [], cs)
      | cs => (items? fuel [] cs).map fun (xs, cs) => (.list xs, cs)
    | '\x7b' :: cs =>
      match skipSpace cs with
      | '\x7d' :: cs => some (.object [], cs)
      | cs => (fields? fuel [] cs).map fun (fs, cs) => (.object fs, cs)
    | cs => (numeral? cs).map fun (n, cs) => (.number n, cs)

/-- The items of a list up to its closing bracket. -/
def items? : Nat → (done : List Node) → List Char → Option (List Node × List Char)
  | 0, _, _ => none
  | fuel + 1, done, cs => do
    let (v, cs) ← value? fuel cs
    match skipSpace cs with
    | ',' :: cs => items? fuel (v :: done) cs
    | ']' :: cs => return ((v :: done).reverse, cs)
    | _ => none

/-- The fields of an object up to its closing brace. -/
def fields? : Nat → (done : List (Option String × Node)) → List Char →
    Option (List (Option String × Node) × List Char)
  | 0, _, _ => none
  | fuel + 1, done, cs => do
    let cs ← literal? ['"'] (skipSpace cs)
    let (k, cs) ← text? (fuel + 1) (some []) cs
    let cs ← literal? [':'] (skipSpace cs)
    let (v, cs) ← value? fuel cs
    match skipSpace cs with
    | ',' :: cs => fields? fuel ((k, v) :: done) cs
    | '\x7d' :: cs => return (((k, v) :: done).reverse, cs)
    | _ => none

end

namespace Node

/-- Reads a text that is one JSON value. -/
def parse? (s : String) : Option Node := do
  let cs := s.toList
  let (v, cs) ← value? (2 * cs.length + 2) cs
  if (skipSpace cs).isEmpty then some v else none

mutual

/-- What the node means, if lists and objects are nested fewer than `depth` deep. -/
def toValue? (depth : Nat) : Node → Option Value
  | null => some .null
  | bool b => some (.bool b)
  | number n => n.value?
  | text s => s.map .text
  | list xs => if depth ≤ 1 then none else (itemValues? (depth - 1) xs).map .list
  | object fs => if depth ≤ 1 then none else (fieldValues? (depth - 1) fs).map Value.ofFields

def itemValues? (depth : Nat) : List Node → Option (List Value)
  | [] => some []
  | x :: xs => do return (← toValue? depth x) :: (← itemValues? depth xs)

def fieldValues? (depth : Nat) : List (Option String × Node) → Option (List (String × Value))
  | [] => some []
  | (k, v) :: fs => do return (← k, ← toValue? depth v) :: (← fieldValues? depth fs)

end

end Node

/-- A node with its place in the text. -/
structure Place where
  node : Node
  /-- One more than the number of lists and objects that may be nested here. -/
  depth : Nat := 128

namespace Place

def parse? (s : String) : Option Place := (Node.parse? s).map fun node => ⟨node, 128⟩

/-- The place of a field below a place. -/
def field? (p : Place) (f : Option String × Node) : Option (String × Place) :=
  f.1.map (·, ⟨f.2, p.depth - 1⟩)

/-- What stands at the place; none if it cannot be read. -/
def outline? (p : Place) : Option (Outline Place) :=
  match p.node with
  | .null => some .null
  | .bool b => some (.bool b)
  | .number n => n.value?.bind fun
    | .int n => some (.int n)
    | .float x => some (.float x)
    | _ => none
  | .text s => s.map .text
  | .list xs =>
    if p.depth ≤ 1 then none else some (.list (xs.map fun x => ⟨x, p.depth - 1⟩))
  | .object fs =>
    if p.depth ≤ 1 then none else (fs.mapM p.field?).map .object

instance : Outlined Place where
  outline p := match p.outline? with
    | some o => .ok o
    | none => .error .malformed
  untyped p := match p.node.toValue? p.depth with
    | some v => .ok v
    | none => .error .malformed

end Place

/-- Reads a text that is one JSON value, of which all parts can be read. -/
def parse? (s : String) : Option Value := (Node.parse? s).bind (Node.toValue? 128)

end PodRunner.Json
