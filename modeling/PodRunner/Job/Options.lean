import PodRunner.Error

/-!
# Job options

The image of a job and its services.  `JobOptions.decode` reads them from a payload that may hold
anything else besides, and refuses blank names.
-/

namespace PodRunner

structure JobOptions where
  image : Option String := none
  services : List String := []
  deriving DecidableEq, Repr

namespace JobOptions

def fieldNames : List String := ["image", "services"]

def readFields {ν : Type} [Format ν] (src : Fields ν) : Reading JobOptions :=
  JobOptions.mk <$> src.maybe "image" Format.text <*>
    src.optional "services" (Format.list Format.text) []

def read {ν : Type} [Format ν] : ν → Decoded JobOptions :=
  Format.record "JobOptions" fieldNames readFields

def toValue (o : JobOptions) : Value :=
  .ofFields [("image", .ofText? o.image), ("services", .texts o.services)]

/-- The first thing wrong with the options: a blank image, then a blank service. -/
def fault? (o : JobOptions) : Option OptionsFault :=
  if o.image.any Blank.blank then some .blankImage
  else (o.services.findIdx? Blank.blank).map .blankService

/-- Reads a payload; null stands for no options. -/
def decode (payload : Value) : Except Error JobOptions :=
  if payload.isNull then .ok {}
  else
    match read payload with
    | .error e => .error (.invalidOptions (.undecodable e))
    | .ok o =>
      match o.fault? with
      | some f => .error (.invalidOptions f)
      | none => .ok o

/-- The options as the job's summary shows them. -/
def summary (o : JobOptions) : String :=
  "JobOptions \x7b image: " ++
    (match o.image with
     | none => "None"
     | some image => "Some(" ++ Quoted.text image ++ ")") ++
    ", services: " ++ Quoted.list o.services ++ " \x7d"

end JobOptions

end PodRunner
