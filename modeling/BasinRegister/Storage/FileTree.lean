import BasinRegister.Text.Split
import BasinRegister.Text.Utf8

/-!
# Files

A tree of directories and files, and the texts that paths lead to. A path is read name by name, from the root or from
the working directory; `.` stays where it is and `..` goes one directory up. Every place on the way has to be a
directory, also the last one if a slash follows it.
-/

namespace BasinRegister

/-- What stands at a place of a tree. -/
inductive FileNode where
  /-- A directory. -/
  | directory
  /-- A file with its bytes. -/
  | file (content : List UInt8)
  deriving DecidableEq, Repr

/-- A tree of directories and files. A place is the names on the way to it, the last one first. -/
structure FileTree where
  /-- What stands at the places besides the root. -/
  nodes : List (List String × FileNode)
  /-- Where paths without a leading slash start. -/
  workingPlace : List String
  deriving DecidableEq, Repr

/-- Why a path leads to no text. -/
inductive FileError where
  /-- The path holds a NUL. -/
  | nulInPath
  /-- The path or one of its names is too long. -/
  | nameTooLong
  /-- Nothing is there. -/
  | notFound
  /-- A directory is needed where there is a file. -/
  | notDirectory
  /-- A file is needed where there is a directory. -/
  | isDirectory
  /-- The bytes of the file are not UTF-8. -/
  | notText
  deriving DecidableEq, Repr

/-- The wording of the error. -/
def FileError.message : FileError → String
  | .nulInPath => "file name contained an unexpected NUL byte"
  | .nameTooLong => "File name too long (os error 36)"
  | .notFound => "No such file or directory (os error 2)"
  | .notDirectory => "Not a directory (os error 20)"
  | .isDirectory => "Is a directory (os error 21)"
  | .notText => "stream did not contain valid UTF-8"

namespace FileTree

/-- The greatest size of a name in bytes. -/
def nameLimit : Nat := 255

/-- The size in bytes that every path stays below. -/
def pathLimit : Nat := 4096

/-- What stands at a place. The root is always a directory. -/
def node? (t : FileTree) : List String → Option FileNode
  | [] => some .directory
  | place => (t.nodes.find? (·.1 == place)).map (·.2)

/-- The place to which names lead from a place. -/
def walk (t : FileTree) (place : List String) : List String → Except FileError (List String)
  | [] => .ok place
  | name :: names =>
    match t.node? place with
    | none => .error .notFound
    | some (.file _) => .error .notDirectory
    | some .directory =>
      if name = "" || name = "." then walk t place names
      else if name = ".." then walk t place.tail names
      else if nameLimit < name.utf8ByteSize then .error .nameTooLong
      else walk t (name :: place) names

/-- The place to which a path leads. -/
def locate (t : FileTree) (path : String) : Except FileError (List String) :=
  if path.toList.contains '\x00' then .error .nulInPath
  else if pathLimit ≤ path.utf8ByteSize then .error .nameTooLong
  else
    match Text.splitAll '/' path with
    | [""] => .error .notFound
    | "" :: names => t.walk [] names
    | names => t.walk t.workingPlace names

/-- The text to which a path leads. -/
def readText (t : FileTree) (path : String) : Except FileError String := do
  match t.node? (← t.locate path) with
  | none => .error .notFound
  | some .directory => .error .isDirectory
  | some (.file content) =>
    match Text.utf8Strict content with
    | some text => .ok text
    | none => .error .notText

end FileTree

end BasinRegister
