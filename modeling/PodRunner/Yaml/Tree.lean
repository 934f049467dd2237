import PodRunner.Yaml.Source

/-!
# Trees

What a document holds before it is given a type, with more detail than a `Value`: the keys of a map
may be anything, and what has a tag of the document's own keeps it (`Tree`).  No map has a key
twice; `Tree.same` says which keys are one.  Trees are a `Format` that looks behind tags.
-/

namespace PodRunner.Yaml

inductive Tree where
  | scalar (m : Plain.Meaning)
  | list (items : List Tree)
  | map (entries : List (Tree × Tree))
  | tagged (tag : String) (content : Tree)

namespace Tree

mutual

/-- The trees are equal; the order of the entries of a map does not count. -/
def same : Tree → Tree → Bool
  | .scalar m, .scalar m' => m.same m'
  | .list xs, .list ys => sameItems xs ys
  | .map es, .map es' => es.length = es'.length && sameEntries es es'
  | .tagged t x, .tagged t' y => t = t' && same x y
  | _, _ => false

def sameItems : List Tree → List Tree → Bool
  | [], [] => true
  | x :: xs, y :: ys => same x y && sameItems xs ys
  | _, _ => false

/-- Every entry of one map is in the other. -/
def sameEntries : List (Tree × Tree) → List (Tree × Tree) → Bool
  | [], _ => true
  | (k, v) :: es, es' => (es'.any fun e => same k e.1 && same v e.2) && sameEntries es es'

end

/-- No key is there twice. -/
def distinct : List (Tree × Tree) → Bool
  | [] => true
  | (k, _) :: es => !(es.any fun e => same k e.1) && distinct es

/-! ## Trees of documents -/

/-- A tag without its mark. -/
def unmarked (tag : String) : String :=
  match tag.toList with
  | '!' :: c :: rest => String.ofList (c :: rest)
  | _ => tag

/-- The name of a tag of the document's own; none if the tag is another. -/
def localTag? (tag : Option String) : Option String :=
  (tag.filter fun t => Source.isLocal (some t)).map fun t => unmarked (t.drop 1).toString

/-- Puts a tag of the document's own before what has it.  The tag needs a name. -/
def withTag? (p : Properties) (x : Tree) : Option Tree :=
  match localTag? p.tag with
  | some tag => if tag.isEmpty then none else some (.tagged tag x)
  | none => some x

/-- How many lists and maps may lie within each other. -/
def maxDepth : Nat := 128

/-- Reads a node; the state is how many more aliases may be followed. -/
def ofNode (d : Document) : Nat → Node Nat → StateT Nat Option Tree
  | depth, x => do
    if let .alias _ := x then
      match ← get with
      | 0 => failure
      | n + 1 => set n
    match ← d.target? x, depth with
    | .scalar p style text, _ =>
      let m ← Source.meaning? (if Source.isLocal p.tag then none else p.tag) style text
      withTag? p (.scalar m)
    | .list p items, depth + 1 =>
      let items ← items.mapM (ofNode d depth)
      withTag? p (.list items)
    | .map p entries, depth + 1 =>
      let entries ← entries.mapM fun e => do return (← ofNode d depth e.1, ← ofNode d depth e.2)
      if !distinct entries then failure
      withTag? p (.map entries)
    | _, _ => failure

/-- The tree of a document; one that holds nothing is null.  Each event of the document allows a
hundred aliases. -/
def ofDocument? (d : Document) : Option Tree :=
  match d.root with
  | none => some (.scalar .null)
  | some x => (ofNode d maxDepth x).run' (100 * d.size)

/-! ## Reading -/

/-- What is behind the tags. -/
def content : Tree → Tree
  | .tagged _ x => x.content
  | x => x

def readText (x : Tree) : Decoded String :=
  match x.content with
  | .scalar (.text s) => .ok s
  | _ => .error .malformed

def readFlag (x : Tree) : Decoded Bool :=
  match x.content with
  | .scalar (.bool b) => .ok b
  | _ => .error .malformed

def readNatural (x : Tree) : Decoded Nat :=
  match x.content with
  | .scalar (.int n) => if 0 ≤ n then .ok n.toNat else .error .malformed
  | _ => .error .malformed

/-- Only a null without a tag stands for nothing. -/
def readPresent : Tree → Decoded (Option Tree)
  | .scalar .null => .ok none
  | x => .ok (some x)

/-- A null is a list without items. -/
def readItems (x : Tree) : Decoded (List Tree) :=
  match x.content with
  | .list items => .ok items
  | .scalar .null => .ok []
  | _ => .error .malformed

/-- The entries of a map whose keys are texts.  A null is a map without entries. -/
def readEntries (x : Tree) : Decoded (List (String × Tree)) :=
  match x.content with
  | .map entries => entries.mapM fun (k, v) => do return (← k.readText, v)
  | .scalar .null => .ok []
  | _ => .error .malformed

def readFields (record : String) (declared : List String) (x : Tree) : Decoded (Fields Tree) := do
  let fields ← x.readEntries
  if Outline.distinct declared (fields.map (·.1)) then
    return ⟨record, declared, false, fields, fields.length⟩
  else throw .malformed

mutual

/-- Reads a tree without its type; it must have no tags, save on keys. -/
def readUntyped : Tree → Decoded Value
  | .scalar m => .ok m.value
  | .list items => do return .list (← readUntypedItems items)
  | .map entries => do return .ofFields (← readUntypedEntries entries)
  | .tagged .. => .error .malformed

def readUntypedItems : List Tree → Decoded (List Value)
  | [] => .ok []
  | x :: xs => do return (← readUntyped x) :: (← readUntypedItems xs)

def readUntypedEntries : List (Tree × Tree) → Decoded (List (String × Value))
  | [] => .ok []
  | (k, v) :: es => do return (← k.readText, ← readUntyped v) :: (← readUntypedEntries es)

end

instance : Format Tree where
  text := readText
  flag := readFlag
  natural _ := readNatural
  present := readPresent
  items := readItems
  fields := readFields
  untyped := readUntyped

end Tree

end PodRunner.Yaml
