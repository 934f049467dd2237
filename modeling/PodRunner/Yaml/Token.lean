import PodRunner.Yaml.Scalar

/-!
# Tokens of YAML

A YAML text as a sequence of tokens (`Token.scan`).  Indentation becomes tokens that open and close
blocks.  A scalar, alias or collection that stands where a key may stand is remembered: when a colon
follows it on the same line, it has been a key, and the token that says so is put in front of it.
-/

namespace PodRunner.Yaml

inductive Token where
  | versionDirective (major minor : Nat)
  | tagDirective (handle stem : List Char)
  | documentStart
  | documentEnd
  | streamEnd
  | blockListStart
  | blockMapStart
  | blockEnd
  | flowListStart
  | flowListEnd
  | flowMapStart
  | flowMapEnd
  /-- A dash before an item of a block. -/
  | blockEntry
  /-- A comma inside a flow collection. -/
  | flowEntry
  | key
  | value
  | alias (name : List Char)
  | anchor (name : List Char)
  | tag (handle suffix : List Char)
  | scalar (text : List Char) (style : Style)
  deriving DecidableEq

/-- A token that may turn out to be a key. -/
structure SimpleKey where
  /-- The number of the token. -/
  number : Nat
  /-- Nothing but a key can stand there. -/
  required : Bool
  index : Nat
  line : Nat
  column : Nat

/-- How far the text has been read. -/
structure Scanner where
  cursor : Cursor
  /-- How many flow collections are open. -/
  flow : Nat := 0
  /-- The column of the innermost block, -1 outside of blocks. -/
  indent : Int := -1
  /-- The columns of the blocks around it. -/
  outer : List Int := []
  /-- A key may stand here. -/
  keyAllowed : Bool := true
  /-- For each open flow collection, and for the blocks, what may be a key. -/
  keys : List (Option SimpleKey) := [none]
  /-- The tokens, the last first. -/
  tokens : List Token := []
  count : Nat := 0

namespace Scanner

def emit (s : Scanner) (t : Token) : Scanner :=
  { s with tokens := t :: s.tokens, count := s.count + 1 }

/-- Puts a token in front of the token of that number. -/
def insert (s : Scanner) (number : Nat) (t : Token) : Scanner :=
  let later := s.count - number
  { s with tokens := s.tokens.take later ++ t :: s.tokens.drop later, count := s.count + 1 }

/-- What may be a key has not become one; fails if nothing else could stand there. -/
def dropKey : Option SimpleKey → Option (Option SimpleKey)
  | some k => if k.required then none else some none
  | none => some none

/-- A key ends on its line and is at most 1024 bytes long. -/
def stale (c : Cursor) (k : SimpleKey) : Bool := k.line < c.line || k.index + 1024 < c.index

def dropStaleKeys (s : Scanner) : Option Scanner := do
  let keys ← s.keys.mapM fun k =>
    if k.any (stale s.cursor) then dropKey k else some k
  return { s with keys }

/-- Forgets what might be a key at the innermost level. -/
def removeKey (s : Scanner) : Option Scanner :=
  match s.keys with
  | [] => some s
  | k :: rest => do return { s with keys := (← dropKey k) :: rest }

/-- Remembers the next token as what may be a key. -/
def saveKey (s : Scanner) : Option Scanner := do
  if !s.keyAllowed then return s
  let c := s.cursor
  let required := s.flow = 0 && s.indent = c.column
  let s ← s.removeKey
  return { s with keys := some ⟨s.count, required, c.index, c.line, c.column⟩ :: s.keys.drop 1 }

/-- Opens a block at a column to the right of the innermost one.  Its token is the last, or goes in
front of the token of that number. -/
def openBlock (s : Scanner) (column : Nat) (number : Option Nat) (t : Token) : Scanner :=
  if s.flow = 0 ∧ s.indent < column then
    let s := { s with outer := s.indent :: s.outer, indent := column }
    match number with
    | some n => s.insert n t
    | none => s.emit t
  else s

/-- Closes one block for each column of `outer` that is passed. -/
def closeFrom (column : Int) : List Int → Scanner → Scanner
  | [], s => s
  | i :: outer, s =>
    if column < s.indent then closeFrom column outer { s.emit .blockEnd with indent := i, outer }
    else s

/-- Closes the blocks to the right of a column. -/
def closeBlocks (s : Scanner) (column : Int) : Scanner :=
  if s.flow = 0 then closeFrom column s.outer s else s

/-- Moves past white space, comments and line breaks.  A line may begin with a byte order mark,
which takes a column. -/
def toNextToken : Nat → Scanner → Scanner
  | 0, s => s
  | n + 1, s =>
    let c := s.cursor
    let c := if c.column = 0 ∧ c.head = '\ufeff' then c.skip else c
    let tabs := 0 < s.flow || !s.keyAllowed
    let c := (c.skipWhile fun x => x = ' ' || (tabs && x = '\t')).skipComment
    if isBreak c.head then
      toNextToken n
        { s with cursor := c.skipBreak, keyAllowed := s.keyAllowed || s.flow = 0 }
    else { s with cursor := c }

/-! ## Single tokens -/

/-- A token of so many characters at which no key starts. -/
def mark (s : Scanner) (length : Nat) (keyAllowed : Bool) (t : Token) : Option Scanner := do
  let s ← s.removeKey
  return { s.emit t with cursor := s.cursor.advance length, keyAllowed }

def flowStart (s : Scanner) (t : Token) : Option Scanner := do
  let s ← s.saveKey
  return { s.emit t with
    cursor := s.cursor.skip, keyAllowed := true, flow := s.flow + 1, keys := none :: s.keys }

def flowEnd (s : Scanner) (t : Token) : Option Scanner := do
  let s ← s.mark 1 false t
  return if s.flow = 0 then s else { s with flow := s.flow - 1, keys := s.keys.drop 1 }

/-- An indicator that opens a block of its own where none is open. -/
def blockIndicator (s : Scanner) (opening t : Token) (keyAllowed : Bool) : Option Scanner := do
  if s.flow = 0 && !s.keyAllowed then none
  (s.openBlock s.cursor.column none opening).mark 1 keyAllowed t

/-- A colon: what may be a key has become one, or else the key is empty or a block. -/
def colon (s : Scanner) : Option Scanner :=
  match s.keys with
  | some k :: rest =>
    let s := s.insert k.number .key
    let s := s.openBlock k.column (some k.number) .blockMapStart
    some { s.emit .value with cursor := s.cursor.skip, keyAllowed := false, keys := none :: rest }
  | _ => do
    if s.flow = 0 && !s.keyAllowed then none
    let s := s.openBlock s.cursor.column none .blockMapStart
    return { s.emit .value with cursor := s.cursor.skip, keyAllowed := s.flow = 0 }

/-- The characters that may follow the name of an anchor. -/
def endsName (c : Char) : Bool :=
  isSeparator c || ['?', ':', ',', ']', '\x7d', '%', '@', '\x60'].contains c

def anchorName (s : Scanner) (t : List Char → Token) : Option Scanner := do
  let s ← s.saveKey
  let (name, c) := s.cursor.skip.span isNameChar
  if name.isEmpty || !endsName c.head then none
  return { s.emit (t name) with cursor := c, keyAllowed := false }

/-! ### Tags -/

/-- The characters of tags, without the percent sign. -/
def isTagChar (verbatim : Bool) (c : Char) : Bool :=
  isNameChar c || ";/?:@&=+$.!~*'()".toList.contains c ||
    (verbatim && [',', '[', ']'].contains c)

/-- How many bytes a character whose first byte is `b` has. -/
def width? (b : Nat) : Option Nat :=
  if b < 0x80 then some 1
  else if 0xC0 ≤ b ∧ b < 0xE0 then some 2
  else if 0xE0 ≤ b ∧ b < 0xF0 then some 3
  else if 0xF0 ≤ b ∧ b < 0xF8 then some 4
  else none

/-- The byte that is written as a percent sign and two digits. -/
def percentByte? (s : List Char) : Option Nat :=
  match s with
  | '%' :: a :: b :: _ => hex? [a, b]
  | _ => none

/-- Bytes that continue a character. -/
def moreBytes? : Nat → Nat → List Char → Option Nat
  | 0, code, _ => some code
  | n + 1, code, s => do
    let b ← percentByte? s
    if b < 0x80 ∨ 0xC0 ≤ b then none
    moreBytes? n (code * 64 + (b - 0x80)) (s.drop 3)

/-- The least code point that takes so many bytes. -/
def leastOfWidth (w : Nat) : Nat :=
  if w = 1 then 0 else if w = 2 then 0x80 else if w = 3 then 0x800 else 0x10000

/-- A character that is written as its bytes, and how many characters that takes.  Bytes that follow
the form of a character need not be one. -/
def percentChar? (s : List Char) : Option (Option Char × Nat) := do
  let b ← percentByte? s
  let w ← width? b
  let first := if w = 1 then b else b % Nat.pow 2 (7 - w)
  let code ← moreBytes? (w - 1) first (s.drop 3)
  return (if code < leastOfWidth w then none else codePoint? code, 3 * w)

/-- Reads the characters of a tag. -/
def tagText (verbatim : Bool) :
    Nat → List (Option Char) → Cursor → Option (List (Option Char) × Cursor)
  | 0, acc, c => some (acc.reverse, c)
  | n + 1, acc, c =>
    if c.head = '%' then do
      let (x, width) ← percentChar? c.rest
      tagText verbatim n (x :: acc) (c.advance width)
    else if isTagChar verbatim c.head then tagText verbatim n (some c.head :: acc) c.skip
    else some (acc.reverse, c)

/-- A tag ends before a NUL, which can only be written as an escape.  What is no character reads as
a NUL. -/
def tagStem (cs : List (Option Char)) : List Char :=
  (cs.takeWhile (· ≠ some endMark)).map (·.getD endMark)

/-- Reads the handle of a tag at its exclamation mark. -/
def tagHandle (c : Cursor) : List Char × Cursor :=
  let (name, c) := c.skip.span isNameChar
  if c.head = '!' then ('!' :: name ++ ['!'], c.skip) else ('!' :: name, c)

/-- Reads a tag: verbatim between angle brackets, with a handle, or with none. -/
def readTag (c : Cursor) : Option (Token × Cursor) := do
  if c.peek 1 = '<' then
    let c := c.advance 2
    let (suffix, c) ← tagText true c.rest.length [] c
    if suffix.isEmpty || c.head ≠ '>' then none
    return (.tag [] (tagStem suffix), c.skip)
  let (handle, c) := tagHandle c
  if 1 < handle.length ∧ handle.getLast? = some '!' then
    let (suffix, c) ← tagText false c.rest.length [] c
    if suffix.isEmpty then none
    return (.tag handle (tagStem suffix), c)
  let (suffix, c) ← tagText false c.rest.length ((handle.drop 1).map some).reverse c
  let suffix := tagStem suffix
  return (if suffix.isEmpty then .tag [] ['!'] else .tag ['!'] suffix, c)

def tag (s : Scanner) : Option Scanner := do
  let s ← s.saveKey
  let (t, c) ← readTag s.cursor
  if !(isSeparator c.head || (0 < s.flow && c.head = ',')) then none
  return { s.emit t with cursor := c, keyAllowed := false }

/-! ### Directives -/

/-- A version number: up to nine digits. -/
def versionNumber (c : Cursor) : Option (Nat × Cursor) :=
  let (digits, c) := c.span fun x => '0' ≤ x ∧ x ≤ '9'
  if digits.isEmpty || 9 < digits.length then none
  else some (digits.foldl (fun n x => 10 * n + (x.toNat - '0'.toNat)) 0, c)

def versionValue (c : Cursor) : Option (Token × Cursor) := do
  let (major, c) ← versionNumber (c.skipWhile isGap)
  if c.head ≠ '.' then none
  let (minor, c) ← versionNumber c.skip
  return (.versionDirective major minor, c)

def tagValue (c : Cursor) : Option (Token × Cursor) := do
  let c := c.skipWhile isGap
  if c.head ≠ '!' then none
  let (handle, c) := tagHandle c
  if handle ≠ ['!'] ∧ handle.getLast? ≠ some '!' then none
  if !isGap c.head then none
  let c := c.skipWhile isGap
  let (stem, c) ← tagText true c.rest.length [] c
  if stem.isEmpty || !isSeparator c.head then none
  return (.tagDirective handle (tagStem stem), c)

/-- Reads a directive at its percent sign, to the end of its line. -/
def readDirective (c : Cursor) : Option (Token × Cursor) := do
  let (name, c) := c.skip.span isNameChar
  if !isSeparator c.head then none
  let (t, c) ←
    if name = "YAML".toList then versionValue c
    else if name = "TAG".toList then tagValue c
    else none
  let c := (c.skipWhile isGap).skipComment
  if !isBreakOrEnd c.head then none
  return (t, c.skipBreak)

def directive (s : Scanner) : Option Scanner := do
  let s ← (s.closeBlocks (-1)).removeKey
  let (t, c) ← readDirective s.cursor
  return { s.emit t with cursor := c, keyAllowed := false }

/-! ### Scalars -/

def quotedScalar (s : Scanner) (double : Bool) : Option Scanner := do
  let s ← s.saveKey
  let (text, c) ← quoted double s.cursor
  let style := if double then .doubleQuoted else .singleQuoted
  return { s.emit (.scalar text style) with cursor := c, keyAllowed := false }

def plainScalar (s : Scanner) : Option Scanner := do
  let s ← s.saveKey
  let (text, atLineStart, c) ← plain (0 < s.flow) (s.indent + 1).toNat s.cursor
  return { s.emit (.scalar text .plain) with cursor := c, keyAllowed := atLineStart }

def blockScalar (s : Scanner) (folded : Bool) : Option Scanner := do
  let s ← s.removeKey
  let (text, c) ← block folded s.indent s.cursor
  let style := if folded then .folded else .literal
  return { s.emit (.scalar text style) with cursor := c, keyAllowed := true }

/-- The characters that start no plain scalar, unless what follows them says otherwise. -/
def isIndicator (c : Char) : Bool := "-?:,[]\x7b\x7d#&*!|>'\"%@\x60".toList.contains c

/-- A plain scalar starts here. -/
def startsPlain (s : Scanner) : Bool :=
  let h := s.cursor.head
  let next := s.cursor.peek 1
  !(isSeparator h || isIndicator h) || (h = '-' && !isGap next) ||
    (s.flow = 0 && (h = '?' || h = ':') && !isSeparator next)

/-! ## All tokens -/

/-- Reads one token that stands at the cursor. -/
def token (s : Scanner) : Option Scanner :=
  let c := s.cursor
  let h := c.head
  let alone := isSeparator (c.peek 1)
  let flow := 0 < s.flow
  if isEnd h then (s.closeBlocks (-1)).mark 0 false .streamEnd
  else if c.column = 0 && h = '%' then s.directive
  else if c.atMark '-' then (s.closeBlocks (-1)).mark 3 false .documentStart
  else if c.atMark '.' then (s.closeBlocks (-1)).mark 3 false .documentEnd
  else if h = '[' then s.flowStart .flowListStart
  else if h = '\x7b' then s.flowStart .flowMapStart
  else if h = ']' then s.flowEnd .flowListEnd
  else if h = '\x7d' then s.flowEnd .flowMapEnd
  else if h = ',' then s.mark 1 true .flowEntry
  else if h = '-' && alone then s.blockIndicator .blockListStart .blockEntry true
  else if h = '?' && (flow || alone) then s.blockIndicator .blockMapStart .key !flow
  else if h = ':' && (flow || alone) then s.colon
  else if h = '*' then s.anchorName .alias
  else if h = '&' then s.anchorName .anchor
  else if h = '!' then s.tag
  else if h = '|' && !flow then s.blockScalar false
  else if h = '>' && !flow then s.blockScalar true
  else if h = '\'' then s.quotedScalar false
  else if h = '"' then s.quotedScalar true
  else if s.startsPlain then s.plainScalar
  else none

/-- Reads the next token. -/
def next (s : Scanner) : Option Scanner := do
  let s := s.toNextToken (s.cursor.rest.length + 1)
  let s ← s.dropStaleKeys
  let s ← (s.closeBlocks s.cursor.column).token
  s.dropStaleKeys

/-- Reads tokens up to the end of the text. -/
def run : Nat → Scanner → Option (List Token)
  | 0, _ => none
  | n + 1, s => do
    let s ← s.next
    if s.tokens.head? = some .streamEnd then return s.tokens.reverse
    run n s

end Scanner

/-- The tokens of a text, the last of them the end of the stream. -/
def Token.scan (s : List Char) : Option (List Token) :=
  if s.all isAllowed then Scanner.run (s.length + 2) { cursor := { rest := s } } else none

end PodRunner.Yaml
