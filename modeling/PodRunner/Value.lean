import PodRunner.Decimal.Binary64

/-!
# Untyped values

What a document holds before it is given a type: null, truth values, whole and floating-point
numbers, texts, lists and objects.  The fields of an object are kept in ascending order of their
keys, each key once; `Value.ofFields` brings any fields into that form, the last value of a repeated
key winning.
-/

namespace PodRunner

inductive Value where
  | null
  | bool (b : Bool)
  | int (n : Int)
  | float (x : Binary64)
  | text (s : String)
  | list (xs : List Value)
  | object (fields : List (String × Value))
  deriving Inhabited

namespace Value

/-- Puts a field in its place, replacing a field of the same key. -/
def insertField (k : String) (v : Value) : List (String × Value) → List (String × Value)
  | [] => [(k, v)]
  | (k', v') :: rest =>
    if k < k' then (k, v) :: (k', v') :: rest
    else if k = k' then (k, v) :: rest
    else (k', v') :: insertField k v rest

/-- The object with these fields, the last of each key. -/
def ofFields (fields : List (String × Value)) : Value :=
  .object (fields.foldl (fun acc f => insertField f.1 f.2 acc) [])

/-- The value of a key, if the value is an object that has it. -/
def field? (v : Value) (k : String) : Option Value :=
  match v with
  | .object fields => fields.lookup k
  | _ => none

/-- The value of a key; null if it is missing. -/
def get (v : Value) (k : String) : Value := (v.field? k).getD .null

theorem lookup_cons (k l : String) (v : Value) (fields : List (String × Value)) :
    ((l, v) :: fields).lookup k = if k = l then some v else fields.lookup k := by
  by_cases h : k = l
  · rw [if_pos h, h, List.lookup_cons_self]
  · rw [if_neg h, List.lookup_cons, beq_false_of_ne h]

theorem lookup_insertField (k l : String) (v : Value) (fields : List (String × Value)) :
    (insertField l v fields).lookup k = if k = l then some v else fields.lookup k := by
  induction fields with
  | nil => exact lookup_cons k l v []
  | cons f fields ih =>
    obtain ⟨l', v'⟩ := f
    unfold insertField
    by_cases before : l < l'
    · rw [if_pos before, lookup_cons]
    · rw [if_neg before]
      by_cases same : l = l'
      · rw [if_pos same, lookup_cons, lookup_cons, same]
        split <;> rfl
      · rw [if_neg same, lookup_cons, lookup_cons, ih]
        by_cases h : k = l'
        · rw [if_pos h, if_neg (fun hk => same (hk.symm.trans h)), if_pos h]
        · rw [if_neg h, if_neg h]

theorem field?_ofFields (fields : List (String × Value)) (k : String) :
    (ofFields fields).field? k = fields.reverse.lookup k := by
  suffices along : ∀ acc : List (String × Value),
      (fields.foldl (fun acc f => insertField f.1 f.2 acc) acc).lookup k =
        (fields.reverse.lookup k).or (acc.lookup k) from
    (along []).trans (Option.or_none)
  intro acc
  induction fields generalizing acc with
  | nil => rfl
  | cons f fields ih =>
    rw [List.foldl_cons, ih, lookup_insertField, List.reverse_cons, List.lookup_append,
      Option.or_assoc, lookup_cons]
    split <;> rfl

theorem get_ofFields (fields : List (String × Value)) (k : String) :
    (ofFields fields).get k = (fields.reverse.lookup k).getD .null := by
  rw [get, field?_ofFields]

def isNull : Value → Bool
  | .null => true
  | _ => false

def text? : Value → Option String
  | .text s => some s
  | _ => none

def bool? : Value → Option Bool
  | .bool b => some b
  | _ => none

def int? : Value → Option Int
  | .int n => some n
  | _ => none

def items : Value → List Value
  | .list xs => xs
  | _ => []

/-- The fields of an object. -/
def fields : Value → List (String × Value)
  | .object fields => fields
  | _ => []

def ofNat (n : Nat) : Value := .int n

/-- A text, or null. -/
def ofText? : Option String → Value
  | some s => .text s
  | none => .null

def texts (xs : List String) : Value := .list (xs.map .text)

end Value

end PodRunner
