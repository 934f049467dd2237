import PodRunner.Text.Utf8

/-!
# Addresses

Whether a text is an address: a path, an authority, or a scheme with an authority and a path
(`Uri.valid`).  The rules look at bytes, since the length of an address and of its scheme is bounded
in bytes and a path may hold any byte beyond ASCII.
-/

namespace PodRunner.Uri

/-- The byte of a character of ASCII. -/
def byte (c : Char) : UInt8 := .ofNat c.toNat

def isLetter (b : UInt8) : Bool := (0x41 ≤ b && b ≤ 0x5A) || (0x61 ≤ b && b ≤ 0x7A)

def isDigit (b : UInt8) : Bool := 0x30 ≤ b && b ≤ 0x39

/-- The bytes of a scheme. -/
def isSchemeByte (b : UInt8) : Bool :=
  isLetter b || isDigit b || b = byte '+' || b = byte '-' || b = byte '.' || b = byte '~'

/-- The bytes that an address may hold anywhere. -/
def isUriByte (b : UInt8) : Bool :=
  isLetter b || isDigit b || ("!#$&'()*+,-./:;=?@[]_~".toList.map byte).contains b

/-- The bytes of a path; some that ought to be written otherwise are let through. -/
def isPathByte (b : UInt8) : Bool :=
  b = 0x21 || b = 0x22 || (0x24 ≤ b && b ≤ 0x3B) || b = 0x3D || (0x40 ≤ b && b ≤ 0x5F) ||
    (0x61 ≤ b && b ≠ 0x7F)

/-- The bytes of a query. -/
def isQueryByte (b : UInt8) : Bool :=
  b = 0x21 || (0x24 ≤ b && b ≤ 0x3B) || b = 0x3D || (0x3F ≤ b && b ≠ 0x7F)

def validQuery (s : List UInt8) : Bool := (s.takeWhile (· ≠ byte '#')).all isQueryByte

/-- A path, perhaps with a query and a fragment; nothing is asked of the fragment. -/
def validPath (s : List UInt8) : Bool :=
  let stops (b : UInt8) : Bool := b = byte '?' || b = byte '#'
  (s.takeWhile (!stops ·)).all isPathByte &&
    match s.dropWhile (!stops ·) with
    | b :: query => b = byte '#' || validQuery query
    | [] => true

/-- What has been seen of an authority. -/
structure Seen where
  colons : Nat := 0
  opened : Bool := false
  closed : Bool := false
  percent : Bool := false
  /-- The last byte was an at sign. -/
  afterAt : Bool := false

/-- Looks at one more byte of an authority.  What stands before an at sign, or between brackets, may
hold colons and percent signs. -/
def Seen.step (s : Seen) (b : UInt8) : Option Seen :=
  let s := { s with afterAt := false }
  if b = byte ':' then if 8 ≤ s.colons then none else some { s with colons := s.colons + 1 }
  else if b = byte '[' then
    if s.percent || s.opened then none else some { s with opened := true }
  else if b = byte ']' then
    if !s.opened || s.closed then none
    else some { s with closed := true, colons := 0, percent := false }
  else if b = byte '@' then some { s with colons := 0, percent := false, afterAt := true }
  else if b = byte '%' then some { s with percent := true }
  else if isUriByte b then some s
  else none

/-- The end of an authority. -/
def endsAuthority (b : UInt8) : Bool := b = byte '/' || b = byte '?' || b = byte '#'

def validAuthority (s : List UInt8) : Bool :=
  match s.foldlM Seen.step {} with
  | none => false
  | some seen => seen.opened == seen.closed && seen.colons ≤ 1 && !seen.afterAt && !seen.percent

/-- What follows the scheme of an address, if it has one. -/
def afterScheme? (s : List UInt8) : Option (List UInt8) :=
  match s.dropWhile isSchemeByte with
  | a :: b :: c :: rest =>
    if a = byte ':' ∧ b = byte '/' ∧ c = byte '/' then some rest else none
  | _ => none

def validBytes (s : List UInt8) : Bool :=
  if s.isEmpty || 65534 < s.length then false
  else if s = [byte '*'] then true
  else if s.head? = some (byte '/') then validPath s
  else
    match afterScheme? s with
    | none => validAuthority s && !s.any endsAuthority
    | some rest =>
      let authority := rest.takeWhile (!endsAuthority ·)
      (s.takeWhile isSchemeByte).length ≤ 64 && !authority.isEmpty && validAuthority authority &&
        validPath (rest.dropWhile (!endsAuthority ·))

/-- What an address consists of. -/
inductive Form where
  | path
  | authority
  /-- A scheme, an authority and a path. -/
  | whole
  deriving DecidableEq

/-- The form of an address. -/
def form (s : String) : Form :=
  let s := Utf8.encode s
  if s = [byte '*'] || s.head? = some (byte '/') then .path
  else if (afterScheme? s).isSome then .whole
  else .authority

/-- The text is an address. -/
def valid (s : String) : Bool := validBytes (Utf8.encode s)

end PodRunner.Uri
