import PodRunner.Yaml.Node

/-!
# Documents and their aliases

In a `Document` every alias knows the node that it stands for.  Anchors get numbers in the order in
which the nodes that carry them begin; an alias means the number that its name has at that place,
and the number the last node that got it (`Document.target?`).
-/

namespace PodRunner.Yaml

namespace Node

/-- The number of scalars, aliases, and beginnings and ends of lists and maps. -/
def size {α : Type} : Node α → Nat
  | .scalar .. | .alias _ => 1
  | list _ items => sizeItems items + 2
  | map _ entries => sizeEntries entries + 2
where
  sizeItems : List (Node α) → Nat
    | [] => 0
    | x :: xs => size x + sizeItems xs
  sizeEntries : List (Node α × Node α) → Nat
    | [] => 0
    | (k, v) :: es => size k + size v + sizeEntries es

end Node

/-- The anchors that have been seen. -/
structure Anchors where
  /-- The number that each name has. -/
  numbers : List (String × Nat) := []
  /-- How many nodes with an anchor have begun. -/
  begun : Nat := 0
  /-- Which of these nodes got each number, the last first. -/
  holders : List (Nat × Nat) := []
  /-- These nodes, each with its place among them. -/
  nodes : List (Nat × Node Nat) := []

namespace Anchors

/-- Gives a name a number: how many names there are. -/
def name (a : Anchors) (key : String) : Anchors :=
  let n := a.numbers.length
  { a with
    numbers := (key, n) :: a.numbers.filter (·.1 ≠ key)
    holders := (n, a.begun) :: a.holders
    begun := a.begun + 1 }

/-- Notes that a node with these properties begins. -/
def enter (a : Anchors) (p : Properties) : Anchors :=
  match p.anchor with
  | some key => a.name key
  | none => a

/-- Notes the node that began when the anchors were `before`. -/
def leave (a before : Anchors) (p : Properties) (x : Node Nat) : Anchors :=
  if p.anchor.isSome then { a with nodes := (before.begun, x) :: a.nodes } else a

/-- The node of a number. -/
def find? (a : Anchors) (n : Nat) : Option (Node Nat) := do
  a.nodes.lookup (← a.holders.lookup n)

end Anchors

namespace Node

mutual

/-- Gives every alias below a node its number; fails if a name has none at its place. -/
def number (a : Anchors) : Node String → Option (Node Nat × Anchors)
  | .alias key => do return (.alias (← a.numbers.lookup key), a)
  | .scalar p style text =>
    let x := .scalar p style text
    some (x, (a.enter p).leave a p x)
  | .list p items => do
    let (items, a') ← numberItems (a.enter p) items
    let x := .list p items
    return (x, a'.leave a p x)
  | .map p entries => do
    let (entries, a') ← numberEntries (a.enter p) entries
    let x := .map p entries
    return (x, a'.leave a p x)

def numberItems (a : Anchors) : List (Node String) → Option (List (Node Nat) × Anchors)
  | [] => some ([], a)
  | x :: xs => do
    let (x, a) ← number a x
    let (xs, a) ← numberItems a xs
    return (x :: xs, a)

def numberEntries (a : Anchors) :
    List (Node String × Node String) → Option (List (Node Nat × Node Nat) × Anchors)
  | [] => some ([], a)
  | (k, v) :: es => do
    let (k, a) ← number a k
    let (v, a) ← number a v
    let (es, a) ← numberEntries a es
    return ((k, v) :: es, a)

end

end Node

/-- A document whose aliases have numbers.  A text without documents is read as one document that
holds nothing. -/
structure Document where
  root : Option (Node Nat)
  anchors : Anchors := {}

namespace Document

def ofNode? (x : Node String) : Option Document := do
  let (root, anchors) ← x.number {}
  return ⟨some root, anchors⟩

/-- The documents of a text. -/
def all? (s : String) : Option (List Document) := do
  match ← Node.documents? s with
  | [] => return [⟨none, {}⟩]
  | xs => xs.mapM ofNode?

/-- The document of a text that has one. -/
def only? (s : String) : Option Document := do
  match ← all? s with
  | [d] => return d
  | _ => none

/-- The node that a node stands for. -/
def target? (d : Document) : Node Nat → Option (Node Nat)
  | .alias n => d.anchors.find? n
  | x => some x

/-- The size of the document. -/
def size (d : Document) : Nat := (d.root.map Node.size).getD 1

end Document

end PodRunner.Yaml
