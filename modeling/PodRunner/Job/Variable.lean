import PodRunner.Decode
import PodRunner.Text.Blank

/-!
# Job variables

A job declares variables in order, and may declare one twice.  Looking one up gives the last
declaration (`Variables.get?`).  The containers of a job see, in order, every declaration that is
public or internal and not masked (`Variables.exported`); the variable `KUBERNETES_PRIVILEGED`
decides whether they are privileged (`Variables.privileged`).
-/

namespace PodRunner

/-- One declaration. -/
structure Variable where
  key : String
  value : String := ""
  isPublic : Bool := false
  isInternal : Bool := false
  masked : Bool := false
  deriving DecidableEq, Repr

namespace Variable

/-- A variable that everyone may see. -/
def ofPublic (key value : String) : Variable := ⟨key, value, true, false, false⟩

/-- A variable of the system. -/
def ofInternal (key value : String) : Variable := ⟨key, value, false, true, false⟩

/-- A variable that nobody may see. -/
def ofSecret (key value : String) : Variable := ⟨key, value, false, false, true⟩

/-- Containers may see the declaration. -/
def exported (v : Variable) : Bool := !v.masked && (v.isPublic || v.isInternal)

def fieldNames : List String := ["key", "value", "public", "internal", "masked"]

/-- Reads a declaration; only the key must be there. -/
def read {ν : Type} [Format ν] : ν → Decoded Variable :=
  Format.record "JobVariable" fieldNames fun src =>
    Variable.mk <$> src.required "key" Format.text <*> src.optional "value" Format.text "" <*>
      src.optional "public" Format.flag false <*> src.optional "internal" Format.flag false <*>
      src.optional "masked" Format.flag false

def toValue (v : Variable) : Value :=
  .ofFields [("key", .text v.key), ("value", .text v.value), ("public", .bool v.isPublic),
    ("internal", .bool v.isInternal), ("masked", .bool v.masked)]

end Variable

/-- The declarations of a job. -/
abbrev Variables := List Variable

namespace Variables

def read {ν : Type} [Format ν] : ν → Decoded Variables := Format.list Variable.read

/-- The declarations that containers see. -/
def exported (vs : Variables) : Variables := vs.filter Variable.exported

/-- The value of the last declaration of a key. -/
def get? (vs : Variables) (key : String) : Option String :=
  (vs.reverse.find? (·.key = key)).map (·.value)

def push (vs : Variables) (v : Variable) : Variables := vs ++ [v]

def privilegedKey : String := "KUBERNETES_PRIVILEGED"

/-- The character with an upper case letter of the Latin alphabet made small. -/
def lower (c : Char) : Char := if 'A' ≤ c ∧ c ≤ 'Z' then Char.ofNat (c.toNat + 32) else c

/-- A text that means yes: `1`, or `true` or `yes` in any case, with white space around it. -/
def affirmative (s : String) : Bool :=
  let s := (Blank.trim s.toList).map lower
  s = "1".toList || s = "true".toList || s = "yes".toList

/-- The job asks for privileged containers. -/
def privileged (vs : Variables) : Bool := (vs.get? privilegedKey).any affirmative

end Variables

end PodRunner
