import PodRunner.Text.Parts

/-!
# Names of hosts

Whether a text names a host: by labels with points between them, the last of which is no number, or
by an address of four or of sixteen bytes (`HostName.valid`).
-/

namespace PodRunner.HostName

def isLabelChar (c : Char) : Bool := c.isAlphanum || c = '_' || c = '-'

/-- A label is not too long and has no hyphen at its ends. -/
def validLabel (s : List Char) : Bool :=
  !s.isEmpty && s.length ≤ 63 && s.all isLabelChar && s.head? ≠ some '-' && s.getLast? ≠ some '-'

/-- Labels with points between them; there may be a point at the end. -/
def validName (s : List Char) : Bool :=
  let labels := Parts.between '.' s
  let labels := if 1 < labels.length && labels.getLast? = some [] then labels.dropLast else labels
  s.length ≤ 253 && labels.all validLabel && labels.getLast?.any fun l => !l.all Char.isDigit

/-- A number of one byte without leading zeros. -/
def validByte (s : List Char) : Bool :=
  !s.isEmpty && s.length ≤ 3 && s.all Char.isDigit && (s.length = 1 || s.head? ≠ some '0') &&
    s.foldl (fun n c => 10 * n + (c.toNat - '0'.toNat)) 0 < 256

/-- Four bytes with points between them. -/
def validFour (s : List Char) : Bool :=
  let bytes := Parts.between '.' s
  bytes.length = 4 && bytes.all validByte

def isHexDigit (c : Char) : Bool :=
  c.isDigit || ('a' ≤ c && c ≤ 'f') || ('A' ≤ c && c ≤ 'F')

/-- Two bytes as hexadecimal digits. -/
def validGroup (s : List Char) : Bool := !s.isEmpty && s.length ≤ 4 && s.all isHexDigit

/-- How many pairs of bytes a text with colons between its groups stands for; the last four bytes
may be written with points. -/
def groups? (withPoints : Bool) (s : List Char) : Option Nat :=
  if s.isEmpty then some 0
  else
    let groups := Parts.between ':' s
    let last := groups.getLast?.getD []
    if !groups.dropLast.all validGroup then none
    else if validGroup last then some groups.length
    else if withPoints && validFour last then some (groups.length + 1)
    else none

/-- A text up to its first two colons, and what follows them. -/
def splitGap : List Char → List Char × Option (List Char)
  | ':' :: ':' :: rest => ([], some rest)
  | c :: rest =>
    let (before, after) := splitGap rest
    (c :: before, after)
  | [] => ([], none)

/-- Sixteen bytes in groups; two colons may stand for groups of zeros. -/
def validSixteen (s : List Char) : Bool :=
  match splitGap s with
  | (s, none) => groups? true s = some 8
  | (before, some after) =>
    match groups? false before, groups? true after with
    | some m, some n => m + n ≤ 7
    | _, _ => false

/-- The text names a host. -/
def valid (s : String) : Bool :=
  validName s.toList || validFour s.toList || validSixteen s.toList

end PodRunner.HostName
