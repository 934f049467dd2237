/-!
# White space

`Char.isBlank` is the Unicode property `White_Space`; `String.isBlank` says that a text holds
nothing else, and `String.trimmed` drops white space at both ends.  Everything is defined on
lists of characters (`Blank.trim`), the form on which the laws are stated.
-/

namespace PodRunner

/-- White space in the sense of the Unicode property `White_Space`. -/
def Blank.isBlank (c : Char) : Bool :=
  let n := c.toNat
  (9 ≤ n && n ≤ 13) || n == 32 || n == 0x85 || n == 0xA0 || n == 0x1680 ||
    (0x2000 ≤ n && n ≤ 0x200A) || n == 0x2028 || n == 0x2029 || n == 0x202F || n == 0x205F ||
    n == 0x3000

namespace Blank

/-- The text without the longest run of characters at its end that satisfy `p`. -/
def dropEndWhile (p : Char → Bool) (s : List Char) : List Char :=
  (s.reverse.dropWhile p).reverse

/-- The text without the longest runs at both ends that satisfy `p`. -/
def trimWhile (p : Char → Bool) (s : List Char) : List Char :=
  dropEndWhile p (s.dropWhile p)

/-- The text without white space at its ends. -/
def trim (s : List Char) : List Char := trimWhile isBlank s

/-- No character other than white space. -/
def blank (s : String) : Bool := s.toList.all isBlank

/-- The text without white space at its ends. -/
def trimmed (s : String) : String := String.ofList (trim s.toList)

end Blank

end PodRunner
