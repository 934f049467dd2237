import PodRunner.Text.Parts
import PodRunner.Text.Utf8
import PodRunner.Timestamp

/-!
# The machine

What a program finds on the machine that it runs on: files, which are named by paths, and the clock.
In a tree of files (`FileTree`) a path is followed name by name from a directory.
-/

namespace PodRunner

/-- Why a file could not be read as text. -/
inductive FileFault where
  | missing
  | directory
  /-- What should be a directory is a file. -/
  | notDirectory
  | nameTooLong
  | notText
  deriving DecidableEq

def FileFault.message : FileFault → String
  | missing => "No such file or directory (os error 2)"
  | directory => "Is a directory (os error 21)"
  | notDirectory => "Not a directory (os error 20)"
  | nameTooLong => "File name too long (os error 36)"
  | notText => "stream did not contain valid UTF-8"

/-- The files that can be read, by path. -/
abbrev Files := String → Except FileFault (List UInt8)

/-- Reads a file as text. -/
def Files.text (files : Files) (path : String) : Except FileFault String := do
  match Utf8.decode? (← files path) with
  | some s => return s
  | none => throw .notText

/-- What a program finds on its machine. -/
structure Machine where
  files : Files
  now : Timestamp

/-- The path of a file that is named in another one. -/
def pathBeside (other name : String) : String :=
  if name.startsWith "/" then name
  else
    let above := (other.toList.reverse.dropWhile (· ≠ '/')).reverse
    String.ofList above ++ name

/-! ## Trees of files -/

inductive FileTree where
  | file (content : List UInt8)
  | directory (entries : List (String × FileTree))

namespace FileTree

/-- The longest name in bytes. -/
def maxName : Nat := 255

/-- The longest path in bytes. -/
def maxPath : Nat := 4095

/-- Follows names from a place; `above` are the directories above it, the nearest first. -/
def follow (above : List FileTree) : FileTree → List String → Except FileFault FileTree
  | t, [] => .ok t
  | .file _, _ :: _ => .error .notDirectory
  | .directory entries, name :: names =>
    let here := directory entries
    if name = "" ∨ name = "." then follow above here names
    else if name = ".." then
      match above with
      | [] => follow [] here names
      | parent :: above => follow above parent names
    else if maxName < name.utf8ByteSize then .error .nameTooLong
    else
      match entries.lookup name with
      | some t => follow (here :: above) t names
      | none => .error .missing
termination_by _ names => names.length

/-- What a path leads to from a directory that is reached by `start` from the root. -/
def find (root : FileTree) (start : List String) (path : String) : Except FileFault FileTree :=
  if path.isEmpty then .error .missing
  else if maxPath < path.utf8ByteSize then .error .nameTooLong
  else
    let names := (Parts.between '/' path.toList).map String.ofList
    follow [] root (if path.startsWith "/" then names else start ++ names)

/-- The files of a tree, their paths starting from a directory. -/
def files (root : FileTree) (start : List String) : Files := fun path => do
  match ← root.find start path with
  | .file content => return content
  | .directory _ => throw .directory

end FileTree

end PodRunner
