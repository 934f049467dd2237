import PodRunner.Text.Base64
import PodRunner.Text.Blank
import PodRunner.Text.Parts

/-!
# Labelled blocks

Binary data in a text stands in base 64 between a line that begins a block and a line that ends it;
both bear the label of the block.  What stands outside of blocks does not count.
-/

namespace PodRunner.Pem

structure Block where
  label : String
  content : List UInt8
  deriving DecidableEq

def skipSpace (s : List Char) : List Char := s.dropWhile ([' ', '\t', '\n', '\r'].contains ·)

/-- The parts of the next block as they stand there: label, body, label at the end, and the rest. -/
def next? (s : List Char) : Option (List Char × List Char × List Char × List Char) := do
  let (_, s) ← Parts.cut? "-----BEGIN ".toList s
  let (label, s) ← Parts.cut? "-----".toList s
  let (body, s) ← Parts.cut? "-----END ".toList (skipSpace s)
  let (ending, s) ← Parts.cut? "-----".toList s
  return (label, body, ending, skipSpace s)

/-- The lines of a text. -/
def lines (s : List Char) : List (List Char) := Parts.between '\n' s

/-- Takes the headers of a block off its body; a blank line is between them. -/
def withoutHeaders? (body : List Char) : Option (List Char) :=
  match Parts.cut? "\n\n".toList body <|> Parts.cut? "\r\n\r\n".toList body with
  | some (headers, data) => if (lines headers).all (·.contains ':') then some data else none
  | none => some body

/-- A block of these parts. -/
def block? (label body ending : List Char) : Option Block := do
  if label.isEmpty ∨ label ≠ ending then none
  let data ← withoutHeaders? body
  let digits := ((lines data).map (Blank.dropEndWhile Blank.isBlank)).flatten
  return ⟨String.ofList label, ← Base64.decode? digits⟩

/-- The blocks of a text.  One that does not end is none. -/
def blocksWithin : Nat → List Char → Option (List Block)
  | 0, _ => some []
  | n + 1, s =>
    match next? s with
    | none => some []
    | some (label, body, ending, rest) => do
      return (← block? label body ending) :: (← blocksWithin n rest)

/-- The blocks in bytes; none if one of them is malformed. -/
def blocks? (bytes : List UInt8) : Option (List Block) :=
  blocksWithin bytes.length (bytes.map fun b => Char.ofNat b.toNat)

end PodRunner.Pem
