import PodRunner.Value
import PodRunner.Text.Quoted
import PodRunner.Decimal.Shortest
import PodRunner.Timestamp

/-!
# Reading typed values

How a node of a document is read as a text, a number, a list or a record, for every document format
that is a `Format`.  A record is written as an object, or as the list of its fields in declared
order.  It is read field by field; of several faults the one that stands first in the input counts
(`Reading.seq`), and a missing field comes after everything that is there.
-/

namespace PodRunner

/-- What stood where something else was wanted. -/
inductive Found where
  | null
  | bool (b : Bool)
  | int (n : Int)
  | float (x : Binary64)
  | text (s : String)
  | list
  | map

namespace Found

def describe : Found → String
  | .null => "null"
  | .bool b => "boolean \x60" ++ (if b then "true" else "false") ++ "\x60"
  | .int n => "integer \x60" ++ toString n ++ "\x60"
  | .float x => "floating point \x60" ++ Shortest.text x ++ "\x60"
  | .text s => "string " ++ Quoted.text s
  | .list => "sequence"
  | .map => "map"

end Found

/-- Why a value could not be read as a type. -/
inductive DecodeError where
  | wrongType (found : Found) (expected : String)
  | wrongValue (found : Found) (expected : String)
  | missing (field : String)
  | tooFew (length : Nat) (record : String) (size : Nat)
  | tooMany (length : Nat)
  | timestamp (fault : TimestampFault)
  /-- The document is malformed, or its format tells no more. -/
  | malformed

def DecodeError.message : DecodeError → String
  | .wrongType f e => "invalid type: " ++ f.describe ++ ", expected " ++ e
  | .wrongValue f e => "invalid value: " ++ f.describe ++ ", expected " ++ e
  | .missing f => "missing field \x60" ++ f ++ "\x60"
  | .tooFew n r k =>
    "invalid length " ++ toString n ++ ", expected struct " ++ r ++ " with " ++ toString k ++
      (if k = 1 then " element" else " elements")
  | .tooMany n => "invalid length " ++ toString n ++ ", expected fewer elements in array"
  | .timestamp fault => fault.message
  | .malformed => ""

abbrev Decoded (α : Type) := Except DecodeError α

/-- The fields of one record as the input gives them. -/
structure Fields (ν : Type) where
  record : String
  /-- All fields of the record in declared order. -/
  declared : List String
  /-- The input is a list. -/
  positional : Bool
  /-- The fields that are there, in the order of the input. -/
  entries : List (String × ν)
  /-- The number of parts of the input, known or not. -/
  size : Nat

/-- A document format: how its nodes are read. -/
class Format (ν : Type) where
  text : ν → Decoded String
  flag : ν → Decoded Bool
  /-- A whole number of 64 bits without sign; the texts name the type in messages. -/
  natural : String → ν → Decoded Nat
  /-- The node, unless it stands for nothing. -/
  present : ν → Decoded (Option ν)
  items : ν → Decoded (List ν)
  fields : (record : String) → (declared : List String) → ν → Decoded (Fields ν)
  /-- The node without its type. -/
  untyped : ν → Decoded Value

/-- The outcome of reading a part of a record: a value, or a fault with its place in the input. -/
def Reading (α : Type) := Except (Nat × DecodeError) α

namespace Reading

/-- Reads two parts; of two faults the one that stands first counts. -/
def seq {α β : Type} (f : Reading (α → β)) (x : Reading α) : Reading β :=
  match f, x with
  | .ok f, .ok a => .ok (f a)
  | .error e, .ok _ => .error e
  | .ok _, .error e => .error e
  | .error e, .error e' => if e'.1 < e.1 then .error e' else .error e

instance : Applicative Reading where
  pure a := .ok a
  seq f x := seq f (x ())

@[simp] theorem pure_def {α : Type} (a : α) : (pure a : Reading α) = .ok a := rfl

@[simp] theorem ok_seq_ok {α β : Type} (f : α → β) (a : α) :
    (Seq.seq (Except.ok f : Reading (α → β)) fun _ => (Except.ok a : Reading α)) = .ok (f a) := rfl

@[simp] theorem map_ok {α β : Type} (f : α → β) (a : α) :
    f <$> (Except.ok a : Reading α) = .ok (f a) := rfl

end Reading

namespace Fields

variable {ν α : Type}

/-- The place and the value of a field. -/
def find? (src : Fields ν) (key : String) : Option (Nat × ν) :=
  go 0 src.entries
where
  go (i : Nat) : List (String × ν) → Option (Nat × ν)
    | [] => none
    | (k, v) :: rest => if k = key then some (i, v) else go (i + 1) rest

/-- The fault of a field that is not there. -/
def absent (src : Fields ν) (key : String) : Nat × DecodeError :=
  let i := src.declared.idxOf key
  if src.positional then (i, .tooFew i src.record src.declared.length)
  else (src.size + i, .missing key)

/-- Reads a field; `dflt` stands for one that is not there. -/
def fieldOr (src : Fields ν) (key : String) (read : ν → Decoded α)
    (dflt : Option α) : Reading α :=
  match src.find? key with
  | some (i, v) => (read v).mapError (i, ·)
  | none =>
    match dflt with
    | some a => .ok a
    | none => .error (src.absent key)

/-- Reads a field that must be there. -/
def required (src : Fields ν) (key : String) (read : ν → Decoded α) : Reading α :=
  src.fieldOr key read none

/-- Reads a field that may be left out. -/
def optional (src : Fields ν) (key : String) (read : ν → Decoded α) (dflt : α) : Reading α :=
  src.fieldOr key read (some dflt)

end Fields

namespace Format

variable {ν α : Type} [Format ν]

/-- Reads a whole number of so many bits without sign. -/
def word (bits : Nat) (v : ν) : Decoded Nat := do
  let n ← natural ("u" ++ toString bits) v
  if n < Nat.pow 2 bits then return n else throw (.wrongValue (.int n) ("u" ++ toString bits))

/-- Reads what may stand for nothing. -/
def option (read : ν → Decoded α) (v : ν) : Decoded (Option α) := do
  match ← present v with
  | none => return none
  | some v => return some (← read v)

/-- Reads a list, item by item. -/
def list (read : ν → Decoded α) (v : ν) : Decoded (List α) := do
  (← items v).mapM read

/-- Reads a record.  A list with more parts than the record has fields is refused at the end. -/
def record (name : String) (declared : List String) (read : Fields ν → Reading α) (v : ν) :
    Decoded α := do
  let src ← fields name declared v
  match read src with
  | .error (_, e) => throw e
  | .ok a =>
    if src.positional ∧ declared.length < src.size then throw (.tooMany src.size)
    else return a

end Format

/-- Reads a field that may be left out or stand for nothing. -/
def Fields.maybe {ν α : Type} [Format ν] (src : Fields ν) (key : String) (read : ν → Decoded α) :
    Reading (Option α) :=
  src.optional key (Format.option read) none

/-! ## Values and what is read like them -/

/-- The outermost part of a node: a scalar, or the nodes below it. -/
inductive Outline (ν : Type) where
  | null
  | bool (b : Bool)
  | int (n : Int)
  | float (x : Binary64)
  | text (s : String)
  | list (items : List ν)
  | object (fields : List (String × ν))

/-- The nodes of a format whose scalars have types. -/
class Outlined (ν : Type) where
  outline : ν → Decoded (Outline ν)
  untyped : ν → Decoded Value

namespace Outline

variable {ν : Type}

def found : Outline ν → Found
  | null => .null
  | bool b => .bool b
  | int n => .int n
  | float x => .float x
  | text s => .text s
  | list _ => .list
  | object _ => .map

def wrong {α : Type} (expected : String) (o : Outline ν) : Decoded α :=
  .error (.wrongType o.found expected)

def readText : Outline ν → Decoded String
  | text s => .ok s
  | o => o.wrong "a string"

def readFlag : Outline ν → Decoded Bool
  | bool b => .ok b
  | o => o.wrong "a boolean"

def readInt (expected : String) : Outline ν → Decoded Int
  | int n => .ok n
  | o => o.wrong expected

def readNatural (expected : String) (o : Outline ν) : Decoded Nat := do
  let n ← o.readInt expected
  if 0 ≤ n then return n.toNat else throw (.wrongValue (.int n) expected)

def readItems : Outline ν → Decoded (List ν)
  | list xs => .ok xs
  | o => o.wrong "a sequence"

/-- The fields of an object, which may have any keys. -/
def readEntries (expected : String) : Outline ν → Decoded (List (String × ν))
  | object fields => .ok fields
  | o => o.wrong expected

def isNull : Outline ν → Bool
  | null => true
  | _ => false

/-- No declared field is there twice. -/
def distinct (declared keys : List String) : Bool :=
  declared.all fun k => keys.count k ≤ 1

def readFields (record : String) (declared : List String) : Outline ν → Decoded (Fields ν)
  | object fields =>
    if distinct declared (fields.map (·.1)) then
      .ok ⟨record, declared, false, fields, fields.length⟩
    else .error .malformed
  | list xs => .ok ⟨record, declared, true, declared.zip xs, xs.length⟩
  | o => o.wrong ("struct " ++ record)

end Outline

section

variable {ν : Type} [Outlined ν]

instance : Format ν where
  text v := do (← Outlined.outline v).readText
  flag v := do (← Outlined.outline v).readFlag
  natural expected v := do (← Outlined.outline v).readNatural expected
  present v := do return if (← Outlined.outline v).isNull then none else some v
  items v := do (← Outlined.outline v).readItems
  fields record declared v := do (← Outlined.outline v).readFields record declared
  untyped := Outlined.untyped

end

/-- The outermost part of a value. -/
def Value.outline : Value → Outline Value
  | .null => .null
  | .bool b => .bool b
  | .int n => .int n
  | .float x => .float x
  | .text s => .text s
  | .list xs => .list xs
  | .object fields => .object fields

instance : Outlined Value where
  outline v := .ok v.outline
  untyped v := .ok v

end PodRunner
