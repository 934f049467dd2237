import PodRunner.Decode

/-!
# Shapes of interface objects

What the cluster's interface knows of the objects of a kind (`Shape`).  `Shape.read` reads a node as
such an object and answers the object as the interface writes it: without the parts that the kind
does not know, and with those that it always has.  A null stands for a part that is not there; of a
part that is given more than once the last counts.
-/

namespace PodRunner.Api

mutual

/-- What an object or a part of one can be. -/
inductive Shape where
  | text
  | flag
  /-- A whole number of so many bits, with sign. -/
  | int (bits : Nat)
  /-- A whole number or a text. -/
  | intOrText
  | time
  /-- Anything. -/
  | any
  | list (item : Shape)
  /-- An object with any keys. -/
  | map (item : Shape)
  /-- An object with these parts; the name is that of its kind. -/
  | record (name : String) (parts : List Part)

/-- A part of a record. -/
inductive Part where
  | optional (name : String) (shape : Shape)
  /-- A part that is always written. -/
  | required (name : String) (shape : Shape)
  /-- A text that is always the same; it may be left out. -/
  | fixed (name text : String)

end

/-! ## What is always written -/

mutual

/-- What is written for a part that is not there. -/
def Shape.blank : Shape → Value
  | .text | .time => .text ""
  | .flag => .bool false
  | .int _ | .intOrText => .int 0
  | .any => .null
  | .list _ => .list []
  | .map _ => .object []
  | .record _ parts => .ofFields (blankParts parts)

def blankParts : List Part → List (String × Value)
  | [] => []
  | .optional _ _ :: ps => blankParts ps
  | .required name s :: ps => (name, s.blank) :: blankParts ps
  | .fixed name text :: ps => (name, .text text) :: blankParts ps

end

/-! ## Reading -/

section

variable {ν : Type} [Outlined ν]

/-- A whole number within bounds; `kind` names its type in messages, `range` what is too large. -/
def readIntWithin (bits : Nat) (kind range : String) (v : ν) : Decoded Value := do
  let n ← (← Outlined.outline v).readInt kind
  if -Int.pow 2 (bits - 1) ≤ n ∧ n < Int.pow 2 (bits - 1) then return .int n
  else throw (.wrongValue (.int n) range)

def readIntOrText (v : ν) : Decoded Value := do
  match ← Outlined.outline v with
  | .text s => return .text s
  | _ => readIntWithin 32 "IntOrString" "a 32-bit integer" v

/-- A moment, written in universal time. -/
def readTime (v : ν) : Decoded Value := do
  match ← Outlined.outline v with
  | .text s =>
    match Timestamp.parse s with
    | .ok t => return .text t.text
    | .error fault => throw (.timestamp fault)
  | o => o.wrong "an RFC 3339 formatted date and time string"

/-- A text that must be this one. -/
def readFixed (text : String) (v : ν) : Decoded Value := do
  let s ← (← Outlined.outline v).readText
  if s = text then return .text s else throw (.wrongValue (.text s) text)

/-- Reads every field of that name; the last one counts. -/
def readLast {α : Type} (name : String) (read : ν → Decoded α) (last : α) :
    Nat → List (String × ν) → Reading α
  | _, [] => .ok last
  | i, (k, v) :: rest =>
    if k = name then
      match read v with
      | .ok a => readLast name read a (i + 1) rest
      | .error e => .error (i, e)
    else readLast name read last (i + 1) rest

/-- Reads a part unless a null stands for it. -/
def readPresent (read : ν → Decoded Value) (v : ν) : Decoded (Option Value) := do
  if (← Outlined.outline v).isNull then return none else return some (← read v)

mutual

/-- Reads a node as an object of this shape. -/
def Shape.read : Shape → ν → Decoded Value
  | .text, v => do return .text (← (← Outlined.outline v).readText)
  | .flag, v => do return .bool (← (← Outlined.outline v).readFlag)
  | .int bits, v => readIntWithin bits ("i" ++ toString bits) ("i" ++ toString bits) v
  | .intOrText, v => readIntOrText v
  | .time, v => readTime v
  | .any, v => Outlined.untyped v
  | .list item, v => do
    return .list (← (← (← Outlined.outline v).readItems).mapM fun x => item.read x)
  | .map item, v => do
    let entries ← (← Outlined.outline v).readEntries "a map"
    return .ofFields (← entries.mapM fun (k, x) => do return (k, ← item.read x))
  | .record name parts, v => do
    let entries ← (← Outlined.outline v).readEntries name
    match readParts parts entries with
    | .ok fields => return .ofFields fields
    | .error (_, e) => throw e

/-- Reads the parts of a record; of several faults the one that stands first counts. -/
def readParts : List Part → List (String × ν) → Reading (List (String × Value))
  | [], _ => .ok []
  | .optional name s :: ps, entries =>
    (fun v? fields => (v?.map (name, ·)).toList ++ fields) <$>
      readLast name (readPresent fun x => s.read x) none 0 entries <*> readParts ps entries
  | .required name s :: ps, entries =>
    (fun v? fields => (name, v?.getD s.blank) :: fields) <$>
      readLast name (readPresent fun x => s.read x) none 0 entries <*> readParts ps entries
  | .fixed name text :: ps, entries =>
    (fun v fields => (name, v) :: fields) <$>
      readLast name (readFixed text) (.text text) 0 entries <*> readParts ps entries

end

end

end PodRunner.Api
