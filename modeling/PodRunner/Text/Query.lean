import PodRunner.Text.Utf8

/-!
# Queries of addresses

A list of keys and values as the query of an address: joined by ampersands, each key set off from
its value by an equals sign, a space written as a plus sign and every byte that means something else
there as a percent sign and two digits.
-/

namespace PodRunner.Query

/-- A hexadecimal digit in upper case. -/
def hexDigit (n : Nat) : Char :=
  if n < 10 then Char.ofNat (48 + n) else Char.ofNat (55 + n)

def isPlain (b : UInt8) : Bool :=
  (0x30 ≤ b && b ≤ 0x39) || (0x41 ≤ b && b ≤ 0x5A) || (0x61 ≤ b && b ≤ 0x7A) ||
    [0x2A, 0x2D, 0x2E, 0x5F].contains b

def encodeByte (b : UInt8) : List Char :=
  if isPlain b then [Char.ofNat b.toNat]
  else if b = 0x20 then ['+']
  else ['%', hexDigit (b.toNat / 16), hexDigit (b.toNat % 16)]

def encode (s : String) : List Char := (Utf8.encode s).flatMap encodeByte

/-- One key with its value, after an ampersand. -/
def encodePair (p : String × String) : List Char := '&' :: encode p.1 ++ '=' :: encode p.2

/-- A query that goes on after another one. -/
def write (pairs : List (String × String)) : String := String.ofList (pairs.flatMap encodePair)

def hexValue? (b : UInt8) : Option UInt8 :=
  if 0x30 ≤ b && b ≤ 0x39 then some (b - 0x30)
  else if 0x41 ≤ b && b ≤ 0x46 then some (b - 0x37)
  else if 0x61 ≤ b && b ≤ 0x66 then some (b - 0x57)
  else none

/-- Reads the bytes of a key or a value; a percent sign without two digits stands for itself. -/
def decodeBytes : List UInt8 → List UInt8
  | [] => []
  | 0x25 :: a :: b :: rest =>
    match hexValue? a, hexValue? b with
    | some x, some y => (16 * x + y) :: decodeBytes rest
    | _, _ => 0x25 :: decodeBytes (a :: b :: rest)
  | b :: rest => (if b = 0x2B then 0x20 else b) :: decodeBytes rest

def decode (bs : List UInt8) : String := Utf8.decode (decodeBytes bs)

def decodePair (bs : List UInt8) : String × String :=
  (decode (bs.takeWhile (· ≠ 0x3D)), decode ((bs.dropWhile (· ≠ 0x3D)).drop 1))

/-- The keys and values of a query. -/
def read (s : String) : List (String × String) :=
  (((Utf8.encode s).splitOn 0x26).filter (!·.isEmpty)).map decodePair

end PodRunner.Query
