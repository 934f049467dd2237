import PodRunner.Text.Blank

/-!
# Resource quantities

A quantity is an optional sign, a decimal mantissa and an optional suffix: a binary or decimal
scale, or a power of ten.  `Quantity.shaped` decides the grammar on the three parts into which
`Quantity.split` cuts a text; `Quantity.parse` reads a text with white space around it
(`Quantity.read` with the text in the fault), and `Limits.parse` the two limits of a container, a
blank text meaning no limit.
-/

namespace PodRunner

/-- A quantity, as it was written. -/
structure Quantity where
  text : String
  deriving DecidableEq, Repr

/-- Why a text is no quantity. -/
inductive QuantityFault where
  | empty
  | malformed
  /-- A fault in words. -/
  | other (detail : String)
  deriving DecidableEq

def QuantityFault.message : QuantityFault → String
  | .empty => "quantity must not be empty"
  | .malformed =>
    "quantities must match the regular expression '^([+-]?[0-9.]+)([eEinumkKMGTP]*[-+]?[0-9]*)$'"
  | .other detail => detail

/-- A limit that could not be read. -/
structure LimitFault where
  raw : String
  fault : QuantityFault

namespace Quantity

def isSign (c : Char) : Bool := c = '+' || c = '-'

/-- The text cut into its sign, if any, and the rest. -/
def splitSign : List Char → List Char × List Char
  | [] => ([], [])
  | c :: s => if isSign c then ([c], s) else ([], c :: s)

def isMantissaChar (c : Char) : Bool := c.isDigit || c = '.'

/-- Sign, mantissa and suffix: the mantissa takes all digits and points after the sign. -/
def split (s : List Char) : List Char × List Char × List Char :=
  let (sign, rest) := splitSign s
  (sign, rest.takeWhile isMantissaChar, rest.dropWhile isMantissaChar)

/-- At least one digit, and nothing but digits. -/
def digits (s : List Char) : Bool := !s.isEmpty && s.all Char.isDigit

/-- Digits, then perhaps a point and more digits; or a point and digits. -/
def mantissa (s : List Char) : Bool :=
  let whole := s.takeWhile Char.isDigit
  match s.dropWhile Char.isDigit with
  | [] => !whole.isEmpty
  | '.' :: fraction => if whole.isEmpty then digits fraction else fraction.all Char.isDigit
  | _ => false

/-- The scales that a suffix can name. -/
def scales : List (List Char) :=
  ["Ki", "Mi", "Gi", "Ti", "Pi", "Ei", "n", "u", "m", "k", "M", "G", "T", "P", "E"].map
    String.toList

/-- A power of ten: the letter, an optional sign and digits. -/
def exponent : List Char → Bool
  | c :: s => (c = 'e' || c = 'E') && digits (splitSign s).2
  | [] => false

def suffix (s : List Char) : Bool := s.isEmpty || scales.contains s || exponent s

/-- The grammar of quantities. -/
def shaped (s : List Char) : Bool :=
  let (_, m, x) := split s
  mantissa m && suffix x

/-- Reads a quantity with white space around it. -/
def parse (raw : String) : Except QuantityFault Quantity :=
  let s := Blank.trimmed raw
  if s.isEmpty then .error .empty
  else if shaped s.toList then .ok ⟨s⟩
  else .error .malformed

/-- Reads a quantity; a fault comes with the text as it was given. -/
def read (raw : String) : Except LimitFault Quantity :=
  (parse raw).mapError fun fault => ⟨raw, fault⟩

end Quantity

/-- The limits of one container. -/
structure Limits where
  cpu : Option Quantity := none
  memory : Option Quantity := none
  deriving DecidableEq, Repr

namespace Limits

/-- One limit; a blank text sets none. -/
def parseOne (raw : String) : Except LimitFault (Option Quantity) :=
  if Blank.blank raw then .ok none else (Quantity.read raw).map some

/-- Both limits; the processor limit is read first. -/
def parse (cpu memory : String) : Except LimitFault Limits := do
  let cpu ← parseOne cpu
  let memory ← parseOne memory
  return ⟨cpu, memory⟩

/-- The limits that are set, by name. -/
def entries (l : Limits) : List (String × Quantity) :=
  (l.cpu.map ("cpu", ·)).toList ++ (l.memory.map ("memory", ·)).toList

def isEmpty (l : Limits) : Bool := l.entries.isEmpty

end Limits

end PodRunner
