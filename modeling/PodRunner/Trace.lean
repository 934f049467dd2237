import PodRunner.Text.Utf8

/-!
# Job output

What is written for the reader of a job is a sequence of bytes.  The runner's own lines carry a mark
for warnings and errors (`Trace.line`, `Trace.warning`, `Trace.error`).  A `Buffer` keeps whatever
was written, and shows it as text only as a whole: where the output was cut does not matter.
-/

namespace PodRunner

namespace Trace

def line (message : String) : List UInt8 := Utf8.encode (message ++ "\n")

def warning (message : String) : List UInt8 := line ("WARNING: " ++ message)

def error (message : String) : List UInt8 := line ("ERROR: " ++ message)

end Trace

/-- Output that was written, the last piece first. -/
structure Buffer where
  pieces : List (List UInt8) := []

namespace Buffer

def empty : Buffer := {}

def write (b : Buffer) (bytes : List UInt8) : Buffer := ⟨bytes :: b.pieces⟩

/-- All bytes in the order of writing. -/
def bytes (b : Buffer) : List UInt8 := b.pieces.reverse.flatten

/-- The output as text. -/
def contents (b : Buffer) : String := Utf8.decode b.bytes

@[simp] theorem bytes_empty : empty.bytes = [] := rfl

@[simp] theorem bytes_write (b : Buffer) (bs : List UInt8) :
    (b.write bs).bytes = b.bytes ++ bs := by
  simp [bytes, write]

def println (b : Buffer) (message : String) : Buffer := b.write (Trace.line message)

def warningln (b : Buffer) (message : String) : Buffer := b.write (Trace.warning message)

def errorln (b : Buffer) (message : String) : Buffer := b.write (Trace.error message)

end Buffer

end PodRunner
