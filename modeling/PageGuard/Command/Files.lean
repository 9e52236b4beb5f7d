import PageGuard.Text.Search

/-!
# Files

What a command needs of the world around it, and a directory in memory that gives it.
-/

namespace PageGuard.Command

open Text

/-- A world with files and a clock. -/
class World (m : Type → Type) where
  /-- The content of a file, or why it cannot be read. -/
  read : String → m (Except String String)
  /-- Writes a file, or tells why it cannot be written. -/
  write : String → String → m (Except String Unit)
  /-- The time in microseconds since some fixed moment. -/
  clock : m Nat

/-! ## Directories in memory -/

/-- A directory with files and no other directory, where no time passes. -/
structure Directory where
  files : List (String × String)
deriving DecidableEq, Inhabited

/-- What a path leads to. -/
inductive PathTarget where
  | file (name : String)
  | directory
  /-- A path through a directory that is not there. -/
  | missing
  /-- A path through a file. -/
  | throughFile
deriving DecidableEq, Inhabited

namespace PathTarget

/-- Why a path that leads to no file cannot be opened. -/
def reason : PathTarget → String
  | directory => "Is a directory (os error 21)"
  | throughFile => "Not a directory (os error 20)"
  | _ => "No such file or directory (os error 2)"

end PathTarget

namespace Directory

/-- The file of a name. -/
def file? (d : Directory) (name : String) : Option String := d.files.lookup name

/-- What a path leads to. -/
def target (d : Directory) (path : String) : PathTarget :=
  let parts := (pieces '/' path.toList).map String.ofList
  match parts.filter fun p => p ≠ "" ∧ p ≠ "." with
  | [] => if path.isEmpty then .missing else .directory
  | [name] =>
    if path.toList.head? = some '/' then .missing
    else if name = ".." then .directory
    else if parts.getLast? = some name then .file name
    else if (d.file? name).isSome then .throughFile
    else .missing
  | name :: _ =>
    if path.toList.head? ≠ some '/' ∧ (d.file? name).isSome then .throughFile else .missing

/-- The content of the file at a path. -/
def read (d : Directory) (path : String) : Except String String :=
  match d.target path with
  | .file name =>
    match d.file? name with
    | some content => .ok content
    | none => .error PathTarget.missing.reason
  | t => .error t.reason

/-- Writes a file, in place of an earlier one of the same name. -/
def write (d : Directory) (path content : String) : Except String Unit × Directory :=
  match d.target path with
  | .file name => (.ok (), ⟨(name, content) :: d.files.filter fun f => f.1 ≠ name⟩)
  | t => (.error t.reason, d)

instance : World (StateM Directory) where
  read path := fun d => (d.read path, d)
  write path content := fun d => d.write path content
  clock := fun d => (0, d)

end Directory

end PageGuard.Command
