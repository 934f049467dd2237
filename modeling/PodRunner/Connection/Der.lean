/-!
# Certificates and keys

Elements of tagged data, each with its length in front, and the outer form of certificates and of
private keys.  Whether signatures hold and keys belong together is not looked at.
-/

namespace PodRunner.Der

structure Element where
  tag : Nat
  content : List UInt8
  deriving DecidableEq

/-- Reads a length: one byte, or the number of bytes that follow and hold it. -/
def length? : List UInt8 → Option (Nat × List UInt8)
  | [] => none
  | b :: s =>
    let n := b.toNat
    if n < 128 then some (n, s)
    else if n = 128 ∨ 132 < n ∨ s.length < n - 128 then none
    else some ((s.take (n - 128)).foldl (fun m b => 256 * m + b.toNat) 0, s.drop (n - 128))

/-- Reads an element. -/
def element? : List UInt8 → Option (Element × List UInt8)
  | [] => none
  | tag :: s => do
    let (n, s) ← length? s
    if s.length < n then none else return (⟨tag.toNat, s.take n⟩, s.drop n)

def elementsWithin : Nat → List UInt8 → Option (List Element)
  | _, [] => some []
  | 0, _ => none
  | n + 1, s => do
    let (x, s) ← element? s
    return x :: (← elementsWithin n s)

/-- The elements in bytes. -/
def elements? (s : List UInt8) : Option (List Element) := elementsWithin s.length s

def integerTag : Nat := 0x02
def bitsTag : Nat := 0x03
def bytesTag : Nat := 0x04
def sequenceTag : Nat := 0x30

/-- The elements of the sequence that the bytes are. -/
def sequence? (s : List UInt8) : Option (List Element) := do
  match ← elements? s with
  | [x] => if x.tag = sequenceTag then elements? x.content else none
  | _ => none

/-- A certificate is what is certified, an algorithm and a signature. -/
def isCertificate (s : List UInt8) : Bool :=
  match sequence? s with
  | some [body, algorithm, signature] =>
    body.tag = sequenceTag && algorithm.tag = sequenceTag && signature.tag = bitsTag &&
      (elements? body.content).any (6 ≤ ·.length)
  | _ => false

/-- A private key with the name of its algorithm. -/
def isPrivateKey (s : List UInt8) : Bool :=
  match (sequence? s).map (·.map (·.tag)) with
  | some (a :: b :: c :: _) => a = integerTag && b = sequenceTag && c = bytesTag
  | _ => false

/-- A private key of which every part is a number. -/
def isNumbersKey (s : List UInt8) : Bool :=
  match sequence? s with
  | some parts => parts.length = 9 && parts.all (·.tag = integerTag)
  | none => false

/-- A private key that is a point on a curve. -/
def isCurveKey (s : List UInt8) : Bool :=
  match (sequence? s).map (·.map (·.tag)) with
  | some (a :: b :: _) => a = integerTag && b = bytesTag
  | _ => false

end PodRunner.Der
