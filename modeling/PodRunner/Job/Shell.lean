import PodRunner.Decode

/-!
# Shells

How the shell of a job is started in a container.  The default looks for the best shell that the
container has.
-/

namespace PodRunner

structure Shell where
  name : String
  /-- The shell reads its script from a file. -/
  passFile : Bool := false
  command : List String
  deriving DecidableEq, Repr

namespace Shell

def fieldNames : List String := ["shell", "pass_file", "command"]

def read {ν : Type} [Format ν] : ν → Decoded Shell :=
  Format.record "ShellScript" fieldNames fun src =>
    Shell.mk <$> src.required "shell" Format.text <*>
      src.optional "pass_file" Format.flag false <*>
      src.required "command" (Format.list Format.text)

def toValue (s : Shell) : Value :=
  .ofFields [("shell", .text s.name), ("pass_file", .bool s.passFile),
    ("command", .texts s.command)]

/-- The shells to look for, the best first. -/
def candidates : List String :=
  ["/usr/local/bin/bash", "/usr/bin/bash", "/bin/bash", "/usr/local/bin/sh", "/usr/bin/sh",
    "/bin/sh"]

/-- A script that becomes the first of some shells that is there. -/
def detection (shells : List String) : String :=
  "if " ++ "elif ".intercalate (shells.map fun s =>
    "[ -x " ++ s ++ " ]; then\n\texec " ++ s ++ " \n") ++
    "else\n\techo shell not found\n\texit 1\nfi\n\n"

/-- The best shell of the container. -/
def bash : Shell := ⟨"bash", false, ["sh", "-c", detection candidates]⟩

end Shell

end PodRunner
