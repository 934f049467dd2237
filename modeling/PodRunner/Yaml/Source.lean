import PodRunner.Decode
import PodRunner.Yaml.Document
import PodRunner.Yaml.Plain

/-!
# Reading typed values from YAML

YAML documents are a `Format`: any scalar can be read as a text, only plain scalars of the right
form as truth values and numbers, and what is left empty as nothing, as an empty list or as a record
without fields.  `Source.untyped` reads a node without a type.
-/

namespace PodRunner.Yaml

/-- A node together with its document; no node stands for an empty document. -/
structure Source where
  document : Document
  node : Option (Node Nat)

namespace Source

/-- What the node, or the node that it stands for, is. -/
inductive Kind where
  | nothing
  | scalar (tag : Option String) (style : Style) (text : String)
  | list (items : List Source)
  | map (entries : List (Source × Source))
  /-- An alias of a node that there is not. -/
  | broken

def kind (s : Source) : Kind :=
  let sub (x : Node Nat) : Source := ⟨s.document, some x⟩
  match s.node with
  | none => .nothing
  | some x =>
    match s.document.target? x with
    | some (.scalar p style text) => .scalar p.tag style text
    | some (.list _ items) => .list (items.map sub)
    | some (.map _ entries) => .map (entries.map fun e => (sub e.1, sub e.2))
    | _ => .broken

def nullTag : String := "tag:yaml.org,2002:null"
def boolTag : String := "tag:yaml.org,2002:bool"
def intTag : String := "tag:yaml.org,2002:int"
def floatTag : String := "tag:yaml.org,2002:float"

/-- The scalar is plain, or a literal block with the tag. -/
def canBe (tag : String) (t : Option String) (style : Style) : Bool :=
  style = .plain || (style = .literal && t = some tag)

def readText (s : Source) : Decoded String :=
  match s.kind with
  | .scalar _ _ text => .ok text
  | _ => .error .malformed

def readFlag (s : Source) : Decoded Bool :=
  match s.kind with
  | .scalar tag style text =>
    match if canBe boolTag tag style then Plain.bool? text else none with
    | some b => .ok b
    | none => .error .malformed
  | _ => .error .malformed

def readNatural (s : Source) : Decoded Nat :=
  match s.kind with
  | .scalar tag style text =>
    match if canBe intTag tag style then Plain.natural? text else none with
    | some n => if n < Nat.pow 2 64 then .ok n else .error .malformed
    | none => .error .malformed
  | _ => .error .malformed

/-- A plain scalar that is empty or null stands for nothing, unless it has another tag. -/
def readPresent (s : Source) : Decoded (Option Source) :=
  match s.kind with
  | .nothing => .ok none
  | .scalar tag .plain text =>
    match tag with
    | none => .ok (if text.isEmpty || Plain.isNull text then none else some s)
    | some tag =>
      if tag = nullTag then (if Plain.isNull text then .ok none else .error .malformed)
      else .ok (some s)
  | .broken => .error .malformed
  | _ => .ok (some s)

/-- Nothing is there, or only an empty plain scalar. -/
def Kind.isEmpty : Kind → Bool
  | .nothing => true
  | .scalar _ .plain text => text.isEmpty
  | _ => false

def readItems (s : Source) : Decoded (List Source) :=
  match s.kind with
  | .list items => .ok items
  | k => if k.isEmpty then .ok [] else .error .malformed

def readFields (record : String) (declared : List String) (s : Source) :
    Decoded (Fields Source) :=
  match s.kind with
  | .map entries => do
    let fields ← entries.mapM fun e => do return (← e.1.readText, e.2)
    if Outline.distinct declared (fields.map (·.1)) then
      return ⟨record, declared, false, fields, fields.length⟩
    else throw .malformed
  | k => if k.isEmpty then .ok ⟨record, declared, false, [], 0⟩ else .error .malformed

/-! ## Untyped values -/

/-- The tag begins with the mark of the document's own tags. -/
def isMarked (tag : String) : Bool := tag.toList.head? = some '!'

/-- The tag is one of the document's own; all of it is characters. -/
def isLocal (tag : Option String) : Bool :=
  tag.any fun t => isMarked t && !t.toList.contains endMark

/-- What a scalar means whose tag is not one of the document's own. -/
def meaning? (tag : Option String) (style : Style) (text : String) : Option Plain.Meaning :=
  let untagged : Option Plain.Meaning :=
    if style = .plain then Plain.meaning? text else some (.text text)
  match tag with
  | none => untagged
  | some t =>
    if t = boolTag then (Plain.bool? text).map .bool
    else if t = intTag then (Plain.int? text).join.map .int
    else if t = floatTag then (Plain.real? text).map .real
    else if t = nullTag then (if Plain.isNull text then some .null else none)
    else if isMarked t then untagged
    else some (.text text)

/-- How many lists and maps may lie within each other in an untyped value. -/
def maxDepth : Nat := 127

/-- Reads a node without its type; `depth` bounds how deep lists and maps lie within each other, and
the state is how many more aliases may be followed. -/
def untypedNode (d : Document) : Nat → Node Nat → StateT Nat Option Value
  | depth, x => do
    if let .alias _ := x then
      match ← get with
      | 0 => failure
      | n + 1 => set n
    match ← d.target? x, depth with
    | .scalar p style text, _ =>
      if isLocal p.tag then failure
      (meaning? p.tag style text).map Plain.Meaning.value
    | .list p items, depth + 1 =>
      if isLocal p.tag then failure
      return .list (← items.mapM (untypedNode d depth))
    | .map p entries, depth + 1 =>
      if isLocal p.tag then failure
      let fields ← entries.mapM fun e => do
        let key ← readText ⟨d, some e.1⟩ |>.toOption
        return (key, ← untypedNode d depth e.2)
      return .ofFields fields
    | _, _ => failure

/-- Reads the node without its type.  Each event of the document allows a hundred aliases. -/
def untyped (s : Source) : Decoded Value :=
  match s.node with
  | none => .ok .null
  | some x =>
    match (untypedNode s.document maxDepth x).run' (100 * s.document.size) with
    | some v => .ok v
    | none => .error .malformed

instance : Format Source where
  text := readText
  flag := readFlag
  natural _ := readNatural
  present := readPresent
  items := readItems
  fields := readFields
  untyped := untyped

end Source

/-- Reads the document of a text.  Whatever is wrong, the text as a whole is malformed. -/
def decode {α : Type} (read : Source → Decoded α) (s : String) : Decoded α :=
  match Document.only? s with
  | none => .error .malformed
  | some d => (read ⟨d, d.root⟩).mapError fun _ => .malformed

end PodRunner.Yaml
