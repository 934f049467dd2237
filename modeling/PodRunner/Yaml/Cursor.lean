/-!
# Places in a YAML text

The classes of characters that YAML distinguishes, and a place in a text (`Cursor`) with its line
and column.  The end of the text reads as the character NUL, which no text holds.
-/

namespace PodRunner.Yaml

/-- What reads as the end of the text. -/
def endMark : Char := Char.ofNat 0

def isBreak (c : Char) : Bool :=
  c = '\n' || c = '\r' || c = '\u0085' || c = '\u2028' || c = '\u2029'

/-- A space or a tab. -/
def isGap (c : Char) : Bool := c = ' ' || c = '\t'

def isEnd (c : Char) : Bool := c = endMark

def isBreakOrEnd (c : Char) : Bool := isBreak c || isEnd c

/-- What ends a word. -/
def isSeparator (c : Char) : Bool := isGap c || isBreakOrEnd c

/-- The characters of names of anchors, tag handles and directives. -/
def isNameChar (c : Char) : Bool :=
  ('0' ≤ c ∧ c ≤ '9') || ('a' ≤ c ∧ c ≤ 'z') || ('A' ≤ c ∧ c ≤ 'Z') || c = '_' || c = '-'

/-- The characters that a YAML text may hold. -/
def isAllowed (c : Char) : Bool :=
  let n := c.toNat
  n = 0x9 || n = 0xA || n = 0xD || (0x20 ≤ n && n ≤ 0x7E) || n = 0x85 || (0xA0 ≤ n && n ≤ 0xD7FF) ||
    (0xE000 ≤ n && n ≤ 0xFFFD) || 0x10000 ≤ n

structure Cursor where
  rest : List Char
  /-- The number of bytes before the place. -/
  index : Nat := 0
  line : Nat := 0
  column : Nat := 0

/-- The number of bytes of the characters. -/
def byteCount (cs : List Char) : Nat := cs.foldl (fun n c => n + c.utf8Size) 0

namespace Cursor

/-- The character `k` places on. -/
def peek (c : Cursor) (k : Nat) : Char := c.rest.getD k endMark

def head (c : Cursor) : Char := c.rest.headD endMark

/-- Moves on by `n` characters of the same line. -/
def advance (c : Cursor) (n : Nat) : Cursor :=
  { c with
    rest := c.rest.drop n
    index := c.index + byteCount (c.rest.take n)
    column := c.column + n }

def skip (c : Cursor) : Cursor := c.advance 1

/-- Moves past a line break, if there is one. -/
def skipBreak (c : Cursor) : Cursor :=
  match c.rest with
  | '\r' :: '\n' :: rest => { rest, index := c.index + 2, line := c.line + 1 }
  | b :: rest =>
    if isBreak b then { rest, index := c.index + b.utf8Size, line := c.line + 1 } else c
  | [] => c

/-- What a line break contributes to a text. -/
def breakText (c : Cursor) : List Char :=
  let b := c.head
  if b = '\u2028' || b = '\u2029' then [b] else if isBreak b then ['\n'] else []

/-- The characters up to the first that does not satisfy `p`, all of one line, and what follows. -/
def span (c : Cursor) (p : Char → Bool) : List Char × Cursor :=
  let taken := c.rest.takeWhile p
  (taken, c.advance taken.length)

/-- Moves on while `p` holds. -/
def skipWhile (c : Cursor) (p : Char → Bool) : Cursor := (c.span p).2

/-- Moves past a comment, if there is one, up to the end of the line. -/
def skipComment (c : Cursor) : Cursor :=
  if c.head = '#' then c.skipWhile (!isBreakOrEnd ·) else c

/-- The three characters stand alone at the beginning of a line. -/
def atMark (c : Cursor) (mark : Char) : Bool :=
  c.column = 0 && c.head = mark && c.peek 1 = mark && c.peek 2 = mark && isSeparator (c.peek 3)

/-- The beginning or the end of a document is marked here. -/
def atDocumentMark (c : Cursor) : Bool := c.atMark '-' || c.atMark '.'

end Cursor

end PodRunner.Yaml
