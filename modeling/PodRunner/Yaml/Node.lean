import PodRunner.Yaml.Token

/-!
# Nodes of YAML

What the tokens of a document amount to: a tree of scalars, lists and maps (`Node`), which may carry
an anchor and a tag and may stand for another node.  `Node.documents?` reads the trees of all
documents of a text.
-/

namespace PodRunner.Yaml

/-- What a node may carry. -/
structure Properties where
  anchor : Option String := none
  tag : Option String := none
  deriving DecidableEq

/-- A node; `α` is how an alias names the node that it stands for. -/
inductive Node (α : Type) where
  | scalar (properties : Properties) (style : Style) (text : String)
  | list (properties : Properties) (items : List (Node α))
  | map (properties : Properties) (entries : List (Node α × Node α))
  | alias (target : α)

namespace Node

/-- A node that is not written down. -/
def absent (p : Properties) : Node String := .scalar p .plain ""

/-- The tags that handles stand for. -/
abbrev Handles := List (List Char × List Char)

/-- The handles that every document has. -/
def standardHandles : Handles :=
  [("!".toList, "!".toList), ("!!".toList, "tag:yaml.org,2002:".toList)]

/-- The whole tag. -/
def resolveTag (handles : Handles) (handle suffix : List Char) : Option String :=
  if handle.isEmpty then some (String.ofList suffix)
  else (handles.lookup handle).map fun stem => String.ofList (stem ++ suffix)

/-- Reads an anchor and a tag, in either order. -/
def properties (handles : Handles) (ts : List Token) : Option (Properties × List Token) :=
  match ts with
  | .anchor a :: .tag h s :: ts | .tag h s :: .anchor a :: ts => do
    return (⟨some (String.ofList a), some (← resolveTag handles h s)⟩, ts)
  | .anchor a :: ts => some (⟨some (String.ofList a), none⟩, ts)
  | .tag h s :: ts => do return (⟨none, some (← resolveTag handles h s)⟩, ts)
  | ts => some ({}, ts)

/-- The tag that says no more than that a scalar is a scalar. -/
def plainTag (p : Properties) : Properties := if p.tag = some "!" then { p with tag := none } else p

def startsWith (ts : List Token) (ends : List Token) : Bool :=
  match ts with
  | t :: _ => ends.contains t
  | [] => false

mutual

/-- Reads a node; `block` says whether it may be a block, `inner` whether it may be a list whose
items are not indented. -/
def node (handles : Handles) (block inner : Bool) :
    Nat → List Token → Option (Node String × List Token)
  | 0, _ => none
  | _ + 1, .alias name :: ts => some (.alias (String.ofList name), ts)
  | n + 1, ts => do
    let (p, ts) ← properties handles ts
    match ts with
    | .blockEntry :: _ =>
      if inner then
        let (items, ts) ← bareItems handles n ts
        return (.list p items, ts)
      else if p = {} then none
      else return (absent p, ts)
    | .scalar text style :: ts => return (.scalar (plainTag p) style (String.ofList text), ts)
    | .flowListStart :: ts =>
      let (items, ts) ← flowItems handles n true ts
      return (.list p items, ts)
    | .flowMapStart :: ts =>
      let (entries, ts) ← flowEntries handles n true ts
      return (.map p entries, ts)
    | .blockListStart :: rest =>
      if block then
        let (items, ts) ← blockItems handles n rest
        return (.list p items, ts)
      else if p = {} then none
      else return (absent p, ts)
    | .blockMapStart :: rest =>
      if block then
        let (entries, ts) ← blockEntries handles n rest
        return (.map p entries, ts)
      else if p = {} then none
      else return (absent p, ts)
    | ts => if p = {} then none else return (absent p, ts)

/-- Reads a node, or an absent one if one of these tokens follows. -/
def nodeUnless (handles : Handles) (ends : List Token) (block inner : Bool) :
    Nat → List Token → Option (Node String × List Token)
  | 0, _ => none
  | n + 1, ts => if startsWith ts ends then some (absent {}, ts) else node handles block inner n ts

/-- Reads the items of a list whose dashes are not indented. -/
def bareItems (handles : Handles) : Nat → List Token → Option (List (Node String) × List Token)
  | 0, _ => none
  | n + 1, .blockEntry :: ts => do
    let (x, ts) ← nodeUnless handles [.blockEntry, .key, .value, .blockEnd] true false n ts
    let (xs, ts) ← bareItems handles n ts
    return (x :: xs, ts)
  | _ + 1, ts => some ([], ts)

/-- Reads the items of an indented list, and its end. -/
def blockItems (handles : Handles) : Nat → List Token → Option (List (Node String) × List Token)
  | 0, _ => none
  | n + 1, .blockEntry :: ts => do
    let (x, ts) ← nodeUnless handles [.blockEntry, .blockEnd] true false n ts
    let (xs, ts) ← blockItems handles n ts
    return (x :: xs, ts)
  | _ + 1, .blockEnd :: ts => some ([], ts)
  | _ + 1, _ => none

/-- Reads the value that belongs to a key. -/
def entryValue (handles : Handles) (ends : List Token) (block : Bool) :
    Nat → List Token → Option (Node String × List Token)
  | 0, _ => none
  | n + 1, .value :: ts => nodeUnless handles ends block block n ts
  | _ + 1, ts => some (absent {}, ts)

/-- Reads the entries of an indented map, and its end. -/
def blockEntries (handles : Handles) :
    Nat → List Token → Option (List (Node String × Node String) × List Token)
  | 0, _ => none
  | n + 1, .key :: ts => do
    let (k, ts) ← nodeUnless handles [.key, .value, .blockEnd] true true n ts
    let (v, ts) ← entryValue handles [.key, .value, .blockEnd] true n ts
    let (es, ts) ← blockEntries handles n ts
    return ((k, v) :: es, ts)
  | _ + 1, .blockEnd :: ts => some ([], ts)
  | _ + 1, _ => none

/-- Reads the items of a list in brackets, and its end.  A key and a value in such a list are a map
of one entry. -/
def flowItems (handles : Handles) :
    Nat → Bool → List Token → Option (List (Node String) × List Token)
  | 0, _, _ => none
  | _ + 1, _, .flowListEnd :: ts => some ([], ts)
  | n + 1, first, ts => do
    let ts ← match first, ts with
      | true, ts => some ts
      | false, .flowEntry :: ts => some ts
      | false, _ => none
    match ts with
    | .flowListEnd :: ts => return ([], ts)
    | .key :: ts =>
      let (k, ts) ←
        if startsWith ts [.value, .flowEntry, .flowListEnd] then some (absent {}, ts.drop 1)
        else node handles false false n ts
      let (v, ts) ← entryValue handles [.flowEntry, .flowListEnd] false n ts
      let (xs, ts) ← flowItems handles n false ts
      return (.map {} [(k, v)] :: xs, ts)
    | ts =>
      let (x, ts) ← node handles false false n ts
      let (xs, ts) ← flowItems handles n false ts
      return (x :: xs, ts)

/-- Reads the entries of a map in braces, and its end.  A key may lack its value. -/
def flowEntries (handles : Handles) :
    Nat → Bool → List Token → Option (List (Node String × Node String) × List Token)
  | 0, _, _ => none
  | _ + 1, _, .flowMapEnd :: ts => some ([], ts)
  | n + 1, first, ts => do
    let ts ← match first, ts with
      | true, ts => some ts
      | false, .flowEntry :: ts => some ts
      | false, _ => none
    match ts with
    | .flowMapEnd :: ts => return ([], ts)
    | .key :: ts =>
      let (k, ts) ← nodeUnless handles [.value, .flowEntry, .flowMapEnd] false false n ts
      let (v, ts) ← entryValue handles [.flowEntry, .flowMapEnd] false n ts
      let (es, ts) ← flowEntries handles n false ts
      return ((k, v) :: es, ts)
    | ts =>
      let (k, ts) ← node handles false false n ts
      let (es, ts) ← flowEntries handles n false ts
      return ((k, absent {}) :: es, ts)

end

/-! ## Documents -/

/-- What the directives of a document say. -/
structure Directives where
  version : Bool := false
  handles : Handles := []

/-- Reads directives.  None may be given twice, and the version must be 1.1 or 1.2. -/
def directives (d : Directives) : List Token → Option (Directives × List Token)
  | .versionDirective major minor :: ts =>
    if d.version || major ≠ 1 || (minor ≠ 1 && minor ≠ 2) then none
    else directives { d with version := true } ts
  | .tagDirective handle stem :: ts =>
    if (d.handles.lookup handle).isSome then none
    else directives { d with handles := d.handles ++ [(handle, stem)] } ts
  | ts => some (d, ts)

def startsDirective : List Token → Bool
  | .versionDirective .. :: _ | .tagDirective .. :: _ => true
  | _ => false

/-- Reads a document whose beginning is marked. -/
def markedDocument (n : Nat) (ts : List Token) : Option (Node String × List Token) := do
  let (d, ts) ← directives {} ts
  match ts with
  | .documentStart :: ts =>
    if startsDirective ts || startsWith ts [.documentStart, .documentEnd, .streamEnd] then
      return (absent {}, ts)
    else node (d.handles ++ standardHandles) true false n ts
  | _ => none

/-- Passes the mark at the end of a document, if there is one. -/
def passEnd : List Token → List Token
  | .documentEnd :: ts => ts
  | ts => ts

/-- Reads the documents after the first; the beginning of each is marked. -/
def moreDocuments : Nat → List Token → Option (List (Node String))
  | 0, _ => none
  | n + 1, ts => do
    match ts.dropWhile (· = .documentEnd) with
    | [.streamEnd] => return []
    | ts =>
      let (x, ts) ← markedDocument (3 * ts.length + 3) ts
      return x :: (← moreDocuments n (passEnd ts))

/-- Reads all documents.  The beginning of the first need not be marked. -/
def allDocuments (ts : List Token) : Option (List (Node String)) := do
  match ts with
  | [.streamEnd] => return []
  | _ =>
    let n := 3 * ts.length + 3
    let (x, ts) ←
      if startsDirective ts || startsWith ts [.documentStart] then markedDocument n ts
      else node standardHandles true false n ts
    return x :: (← moreDocuments (ts.length + 1) (passEnd ts))

/-- The documents of a text. -/
def documents? (s : String) : Option (List (Node String)) := do
  allDocuments (← Token.scan s.toList)

end Node

end PodRunner.Yaml
