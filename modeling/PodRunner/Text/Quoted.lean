import PodRunner.Text.Printable

/-!
# Quoted texts

A text as it stands in a message: between double quotes, with the quote, the backslash and line
breaks escaped, and every character that a reader could not see or that would attach to the quote
written by its code point.  `Quoted.list` writes a list of texts in the same form.
-/

namespace PodRunner.Quoted

/-- Lower case hexadecimal digits, without leading zeros. -/
def hex (n : Nat) : List Char := Nat.toDigits 16 n

/-- The written form of one character. -/
def escape (c : Char) : List Char :=
  if c = '"' then ['\\', '"']
  else if c = '\\' then ['\\', '\\']
  else if c = '\n' then ['\\', 'n']
  else if c = '\r' then ['\\', 'r']
  else if c = '\t' then ['\\', 't']
  else if c.toNat = 0 then ['\\', '0']
  else if 0x20 ≤ c.toNat ∧ c.toNat < 0x7F then [c]
  else if Printable.isCombining c || Printable.isUnprintable c then
    ['\\', 'u', '\x7b'] ++ hex c.toNat ++ ['\x7d']
  else [c]

/-- The text between double quotes. -/
def text (s : String) : String :=
  String.ofList ('"' :: s.toList.flatMap escape ++ ['"'])

/-- Quoted texts between square brackets. -/
def list (xs : List String) : String := "[" ++ ", ".intercalate (xs.map text) ++ "]"

end PodRunner.Quoted
