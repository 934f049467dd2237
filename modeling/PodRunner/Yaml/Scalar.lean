import PodRunner.Yaml.Cursor

/-!
# The texts of scalars

How the three kinds of scalars are read: quoted ones with their escapes, plain ones, and blocks.
Line breaks inside a scalar are folded: one break between two lines becomes a space, of several the
first is dropped (`Gap.join`).
-/

namespace PodRunner.Yaml

/-- How a scalar was written. -/
inductive Style where
  | plain
  | singleQuoted
  | doubleQuoted
  | literal
  | folded
  deriving DecidableEq, Repr

/-- White space between two words of a scalar. -/
structure Gap where
  /-- Spaces and tabs before any line break. -/
  spaces : List Char := []
  /-- The first line break. -/
  first : List Char := []
  /-- The line breaks after the first. -/
  more : List Char := []
  /-- There was a line break. -/
  broken : Bool := false

namespace Gap

/-- What the white space means. -/
def join (g : Gap) : List Char :=
  if !g.broken then g.spaces
  else if g.first = ['\n'] then (if g.more.isEmpty then [' '] else g.more)
  else g.first ++ g.more

/-- Reads white space.  A tab that stands left of the column `margin` on a later line is refused. -/
def read (margin : Nat) : Nat → Gap → Cursor → Option (Gap × Cursor)
  | 0, g, c => some (g, c)
  | n + 1, g, c =>
    if isGap c.head then
      if g.broken then
        if c.head = '\t' ∧ c.column < margin then none else read margin n g c.skip
      else read margin n { g with spaces := g.spaces ++ [c.head] } c.skip
    else if isBreak c.head then
      if g.broken then read margin n { g with more := g.more ++ c.breakText } c.skipBreak
      else read margin n { g with spaces := [], first := c.breakText, broken := true } c.skipBreak
    else some (g, c)

end Gap

/-! ## Quoted scalars -/

def hexDigit? (c : Char) : Option Nat :=
  if '0' ≤ c ∧ c ≤ '9' then some (c.toNat - '0'.toNat)
  else if 'a' ≤ c ∧ c ≤ 'f' then some (c.toNat - 'a'.toNat + 10)
  else if 'A' ≤ c ∧ c ≤ 'F' then some (c.toNat - 'A'.toNat + 10)
  else none

/-- The number that hexadecimal digits denote. -/
def hex? (s : List Char) : Option Nat :=
  s.foldlM (fun n c => (hexDigit? c).map (16 * n + ·)) 0

/-- The character of a code point. -/
def codePoint? (n : Nat) : Option Char := if n.isValidChar then some (Char.ofNat n) else none

/-- What an escaped letter stands for: a character, or so many digits of a code point. -/
def escape? (c : Char) : Option (Char ⊕ Nat) :=
  match c with
  | '0' => some (.inl (Char.ofNat 0))
  | 'a' => some (.inl '\x07')
  | 'b' => some (.inl '\x08')
  | 't' | '\t' => some (.inl '\t')
  | 'n' => some (.inl '\n')
  | 'v' => some (.inl '\x0b')
  | 'f' => some (.inl '\x0c')
  | 'r' => some (.inl '\r')
  | 'e' => some (.inl '\x1b')
  | ' ' => some (.inl ' ')
  | '"' => some (.inl '"')
  | '/' => some (.inl '/')
  | '\\' => some (.inl '\\')
  | 'N' => some (.inl '\u0085')
  | '_' => some (.inl '\u00a0')
  | 'L' => some (.inl '\u2028')
  | 'P' => some (.inl '\u2029')
  | 'x' => some (.inr 2)
  | 'u' => some (.inr 4)
  | 'U' => some (.inr 8)
  | _ => none

/-- The character of an escape at its backslash, and what follows. -/
def readEscape (c : Cursor) : Option (Char × Cursor) := do
  match ← escape? (c.peek 1) with
  | .inl x => return (x, c.advance 2)
  | .inr n =>
    let c := c.advance 2
    let digits := c.rest.take n
    if digits.length < n then none
    let x ← codePoint? (← hex? digits)
    return (x, c.advance n)

/-- Reads the words of a quoted scalar up to its closing quote; `acc` holds the text so far,
reversed.  `double` says which quotes it has. -/
def readQuoted (double : Bool) : Nat → List Char → Cursor → Option (List Char × Cursor)
  | 0, _, _ => none
  | n + 1, acc, c =>
    let quote := if double then '"' else '\''
    let h := c.head
    if c.atDocumentMark || isEnd h then none
    else if isGap h || isBreak h then do
      let (g, c) ← Gap.read 0 n {} c
      readQuoted double n (g.join.reverse ++ acc) c
    else if !double && h = '\'' && c.peek 1 = '\'' then
      readQuoted double n ('\'' :: acc) (c.advance 2)
    else if h = quote then some (acc.reverse, c.skip)
    else if double && h = '\\' && isBreak (c.peek 1) then do
      let (g, c) ← Gap.read 0 n { broken := true } c.skip.skipBreak
      readQuoted double n (g.join.reverse ++ acc) c
    else if double && h = '\\' then do
      let (x, c) ← readEscape c
      readQuoted double n (x :: acc) c
    else readQuoted double n (h :: acc) c.skip

/-- Reads a quoted scalar at its opening quote. -/
def quoted (double : Bool) (c : Cursor) : Option (List Char × Cursor) :=
  readQuoted double (c.rest.length + 1) [] c.skip

/-! ## Plain scalars -/

/-- The indicators of flow collections. -/
def isFlowIndicator (c : Char) : Bool :=
  c = ',' || c = '[' || c = ']' || c = '\x7b' || c = '\x7d'

/-- Reads one word of a plain scalar.  It ends before a colon that is followed by white space, and
inside a flow collection before an indicator; there a colon may not stand before one. -/
def plainWord (flow : Bool) : List Char → Option (List Char)
  | [] => some []
  | c :: s =>
    let next := s.headD endMark
    if isSeparator c then some []
    else if flow && c = ':' && (isFlowIndicator next || next = '?') then none
    else if (c = ':' && isSeparator next) || (flow && isFlowIndicator c) then some []
    else (plainWord flow s).map (c :: ·)

/-- Reads a plain scalar; `gap` is the white space before the next word.  The answer says whether it
ended at the beginning of a line. -/
def readPlain (flow : Bool) (margin : Nat) :
    Nat → List Char → Gap → Cursor → Option (List Char × Bool × Cursor)
  | 0, _, _, _ => none
  | n + 1, acc, gap, c => do
    if c.atDocumentMark || c.head = '#' then return (acc.reverse, gap.broken, c)
    let word ← plainWord flow c.rest
    let (acc, gap, c) :=
      if word.isEmpty then (acc, gap, c)
      else (word.reverse ++ (gap.join.reverse ++ acc), {}, c.advance word.length)
    if !(isGap c.head || isBreak c.head) then return (acc.reverse, gap.broken, c)
    let (gap, c) ← Gap.read margin c.rest.length gap c
    if !flow && c.column < margin then return (acc.reverse, gap.broken, c)
    readPlain flow margin n acc gap c

/-- Reads a plain scalar that may go on in lines indented by `margin` at least. -/
def plain (flow : Bool) (margin : Nat) (c : Cursor) : Option (List Char × Bool × Cursor) :=
  readPlain flow margin (c.rest.length + 1) [] {} c

/-! ## Block scalars -/

/-- What becomes of the line breaks at the end of a block. -/
inductive Chomping where
  | strip
  | clip
  | keep
  deriving DecidableEq

/-- The header of a block: the chomping and the indentation, if they are given. -/
structure BlockHeader where
  chomping : Chomping := .clip
  indentation : Option Nat := none

def chomping? (c : Char) : Option Chomping :=
  if c = '+' then some .keep else if c = '-' then some .strip else none

/-- An indentation may not be zero. -/
def indentation? (c : Char) : Option Nat :=
  if '1' ≤ c ∧ c ≤ '9' then some (c.toNat - '0'.toNat) else none

/-- Reads the two parts of a header in either order. -/
def blockHeader (c : Cursor) : BlockHeader × Cursor :=
  match chomping? c.head with
  | some chomping =>
    match indentation? (c.peek 1) with
    | some n => (⟨chomping, some n⟩, c.advance 2)
    | none => (⟨chomping, none⟩, c.skip)
  | none =>
    match indentation? c.head with
    | none => ({}, c)
    | some n =>
      match chomping? (c.peek 1) with
      | some chomping => (⟨chomping, some n⟩, c.advance 2)
      | none => (⟨.clip, some n⟩, c.skip)

/-- Reads empty lines and the indentation of the next line.  The answer gives the line breaks and
the widest indentation; a tab in place of an indentation is refused. -/
def blockBreaks (indent : Option Nat) :
    Nat → Nat → List Char → Cursor → Option (List Char × Nat × Cursor)
  | 0, widest, breaks, c => some (breaks, widest, c)
  | n + 1, widest, breaks, c =>
    let room := c.rest.takeWhile (· = ' ')
    let c := c.advance (match indent with
      | some i => min room.length (i - c.column)
      | none => room.length)
    let widest := max widest c.column
    if c.head = '\t' && indent.all (c.column < ·) then none
    else if isBreak c.head then blockBreaks indent n widest (breaks ++ c.breakText) c.skipBreak
    else some (breaks, widest, c)

/-- What stands between two lines of a block. -/
structure BlockGap where
  first : List Char := []
  more : List Char := []
  /-- The line before began with white space. -/
  afterGap : Bool := false

/-- What the line breaks between two lines mean.  A folded block joins two lines with a space unless
one of them begins with white space. -/
def BlockGap.join (folded : Bool) (g : BlockGap) (beforeGap : Bool) : List Char :=
  if folded && g.first = ['\n'] && !g.afterGap && !beforeGap then
    (if g.more.isEmpty then [' '] else g.more)
  else g.first ++ g.more

/-- Reads the lines of a block that are indented by `indent`. -/
def blockLines (folded : Bool) (indent : Nat) :
    Nat → List Char → BlockGap → Cursor → Option (List Char × BlockGap × Cursor)
  | 0, _, _, _ => none
  | n + 1, acc, gap, c =>
    if c.column ≠ indent || isEnd c.head then some (acc.reverse, gap, c)
    else do
      let gapped := isGap c.head
      let acc := (gap.join folded gapped).reverse ++ acc
      let (line, c) := c.span (!isBreakOrEnd ·)
      let acc := line.reverse ++ acc
      let first := c.breakText
      let (more, _, c) ← blockBreaks (some indent) c.rest.length 0 [] c.skipBreak
      blockLines folded indent n acc ⟨first, more, gapped⟩ c

/-- Reads a block scalar at its indicator.  `parent` is the number of columns that its lines must be
indented by more than. -/
def block (folded : Bool) (parent : Int) (c : Cursor) : Option (List Char × Cursor) := do
  let (header, c) := blockHeader c.skip
  if '0' ≤ c.head ∧ c.head ≤ '9' then none
  let c := (c.skipWhile isGap).skipComment
  if !isBreakOrEnd c.head then none
  let c := c.skipBreak
  let given : Option Nat := header.indentation.map fun n => n + parent.toNat
  let (breaks, widest, c) ← blockBreaks given c.rest.length 0 [] c
  let indent := given.getD (max (max widest (parent + 1).toNat) 1)
  let (text, gap, c) ← blockLines folded indent (c.rest.length + 1) [] ⟨[], breaks, false⟩ c
  let tail :=
    match header.chomping with
    | .strip => []
    | .clip => gap.first
    | .keep => gap.first ++ gap.more
  return (text ++ tail, c)

end PodRunner.Yaml
