import PodRunner.Config
import PodRunner.Job
import PodRunner.Text.SipHash
import PodRunner.Text.Utf8

/-!
# Names of pods

The cluster completes the name of a pod from a stem.  The stem names the runner, the project and the
slot of a job (`Name.base`), brought into the alphabet of lower case letters, digits and single
dashes (`Name.sanitize`) and into the length that leaves room for the completion (`Name.limit`): of
a longer name the head is kept, and a hash tells it from others with the same head.
`Label.sanitize` brings any text into the form of a label's value.
-/

namespace PodRunner

namespace Name

/-- The characters of names, without the dash. -/
def isPlain (c : Char) : Bool := ('a' ≤ c ∧ c ≤ 'z') || ('0' ≤ c ∧ c ≤ '9')

/-- Small letters, each run of characters outside the alphabet as one dash; `dashed` says that the
name so far ends in such a run. -/
def squeeze (dashed : Bool) : List Char → List Char
  | [] => []
  | c :: s =>
    let c := Variables.lower c
    if isPlain c then c :: squeeze false s
    else if dashed then squeeze true s
    else '-' :: squeeze true s

def isDash (c : Char) : Bool := c = '-'

/-- The name in the alphabet of names, without a dash at its ends. -/
def sanitize (s : List Char) : List Char :=
  match Blank.trimWhile isDash (squeeze false s) with
  | [] => "runner".toList
  | name => name

/-- The length of the hash in a shortened name. -/
def hashLength : Nat := 8

/-- The hash of a name. -/
def hash (s : List Char) : List Char :=
  (SipHash.digits (SipHash.hash (Utf8.encodeChars s ++ [0xFF]))).take hashLength

/-- A name of at most `n` characters: the name itself, or its head, a dash and its hash. -/
def limit (n : Nat) (s : List Char) : List Char :=
  if s.length ≤ n then s
  else Blank.dropEndWhile isDash (s.take (n - (hashLength + 1))) ++ '-' :: hash s

/-- The length of a label of the domain name system. -/
def maxLength : Nat := 63

/-- The length of the completion. -/
def completionLength : Nat := 5

def base (r : Runner) (j : Job) : String :=
  "runner-" ++ r.shortToken ++ "-project-" ++ toString j.projectId ++ "-concurrent-" ++
    toString j.concurrentId

/-- The stem of the names of a job's pods. -/
def generate (r : Runner) (j : Job) : String :=
  String.ofList (limit (maxLength - completionLength - 1) (sanitize (base r j).toList) ++ ['-'])

end Name

namespace Label

def isLetterOrDigit (c : Char) : Bool :=
  ('a' ≤ c ∧ c ≤ 'z') || ('A' ≤ c ∧ c ≤ 'Z') || ('0' ≤ c ∧ c ≤ '9')

/-- The characters of labels; a dash stands for any other. -/
def clean (c : Char) : Char :=
  if isLetterOrDigit c || c = '-' || c = '_' || c = '.' then c else '-'

/-- The label's value for a text: at most 63 characters, the first and the last a letter or
digit. -/
def sanitize (s : List Char) : List Char :=
  Blank.trimWhile (fun c => !isLetterOrDigit c) ((s.take 63).map clean)

end Label

end PodRunner
