/-!
# Parts of texts

The parts of a text between marks (`Parts.between`), and a text cut in two where a mark first stands
(`Parts.cut?`).
-/

namespace PodRunner.Parts

/-- The parts between marks, one more than there are marks. -/
def between (mark : Char) : List Char → List (List Char)
  | [] => [[]]
  | c :: s =>
    if c = mark then [] :: between mark s
    else
      match between mark s with
      | p :: ps => (c :: p) :: ps
      | [] => [[c]]

/-- What stands before the first of these marks, and what stands after it. -/
def cut? (mark : List Char) : List Char → Option (List Char × List Char)
  | [] => none
  | c :: s =>
    if mark.isPrefixOf (c :: s) then some ([], (c :: s).drop mark.length)
    else (cut? mark s).map fun (before, after) => (c :: before, after)

end PodRunner.Parts
