import PodRunner.Value
import PodRunner.Text.Quoted
import PodRunner.Decimal.Shortest

/-!
# Writing JSON texts

`Json.write` writes a value without white space.  In the plain form characters beyond ASCII stand
for themselves; `Json.writeAscii` writes them as units of four hexadecimal digits.
-/

namespace PodRunner.Json

/-- Four hexadecimal digits. -/
def unit (n : Nat) : List Char :=
  let ds := Quoted.hex n
  '\\' :: 'u' :: List.replicate (4 - ds.length) '0' ++ ds

/-- The written form of a character beyond ASCII: one unit, or a pair of them. -/
def units (c : Char) : List Char :=
  if c.toNat < 0x10000 then unit c.toNat
  else
    let n := c.toNat - 0x10000
    unit (0xD800 + n / 0x400) ++ unit (0xDC00 + n % 0x400)

def escapeChar (ascii : Bool) (c : Char) : List Char :=
  if c = '"' then ['\\', '"']
  else if c = '\\' then ['\\', '\\']
  else if c = '\n' then ['\\', 'n']
  else if c = '\r' then ['\\', 'r']
  else if c = '\t' then ['\\', 't']
  else if c = '\x08' then ['\\', 'b']
  else if c = '\x0c' then ['\\', 'f']
  else if c.toNat < 0x20 then unit c.toNat
  else if ascii && 0x7F ≤ c.toNat then units c
  else [c]

def writeText (ascii : Bool) (s : String) : String :=
  String.ofList ('"' :: s.toList.flatMap (escapeChar ascii) ++ ['"'])

mutual

def writeWith (ascii : Bool) : Value → String
  | .null => "null"
  | .bool b => if b then "true" else "false"
  | .int n => toString n
  | .float x => Shortest.text x
  | .text s => writeText ascii s
  | .list xs => "[" ++ ",".intercalate (writeItems ascii xs) ++ "]"
  | .object fields => "\x7b" ++ ",".intercalate (writeFields ascii fields) ++ "\x7d"

def writeItems (ascii : Bool) : List Value → List String
  | [] => []
  | x :: xs => writeWith ascii x :: writeItems ascii xs

def writeFields (ascii : Bool) : List (String × Value) → List String
  | [] => []
  | (k, v) :: rest => (writeText ascii k ++ ":" ++ writeWith ascii v) :: writeFields ascii rest

end

/-- The compact form. -/
def write (v : Value) : String := writeWith false v

/-- The compact form in ASCII. -/
def writeAscii (v : Value) : String := writeWith true v

end PodRunner.Json
