/-!
# Base 64

Bytes written as digits of base 64, four for three bytes (`Base64.decode?`).  The last digits are
filled up with equals signs, and the bits that stand for no byte are zero.
-/

namespace PodRunner.Base64

/-- The value of a digit. -/
def digit? (c : Char) : Option Nat :=
  if c.isUpper then some (c.toNat - 'A'.toNat)
  else if c.isLower then some (c.toNat - 'a'.toNat + 26)
  else if c.isDigit then some (c.toNat - '0'.toNat + 52)
  else if c = '+' then some 62
  else if c = '/' then some 63
  else none

/-- The bytes that the last four digits stand for. -/
def lastBytes? (a b c d : Char) : Option (List UInt8) := do
  let x := 64 * (← digit? a) + (← digit? b)
  if c = '=' then
    if d = '=' ∧ x % 16 = 0 then return [.ofNat (x / 16)] else none
  else
    let x := 64 * x + (← digit? c)
    if d = '=' then
      if x % 4 = 0 then return [.ofNat (x / 1024), .ofNat (x / 4)] else none
    else
      let x := 64 * x + (← digit? d)
      return [.ofNat (x / 65536), .ofNat (x / 256), .ofNat x]

/-- The bytes that four digits stand for. -/
def bytes? (a b c d : Char) : Option (List UInt8) := do
  let x := 64 * (64 * (64 * (← digit? a) + (← digit? b)) + (← digit? c)) + (← digit? d)
  return [.ofNat (x / 65536), .ofNat (x / 256), .ofNat x]

/-- The bytes that digits stand for. -/
def decode? : List Char → Option (List UInt8)
  | [] => some []
  | [a, b, c, d] => lastBytes? a b c d
  | a :: b :: c :: d :: rest => do return (← bytes? a b c d) ++ (← decode? rest)
  | _ => none

end PodRunner.Base64
