import ScenarioRunner.Files.Path
import ScenarioRunner.Text.Utf8

/-!
# Trees of files

The files that a command works on, as a value.

* `FileTree` is a file with its bytes or a directory with its entries.
* `Disk` is a tree with the directory from which relative paths are seen.  `Disk.locate` follows a
  path, `Disk.readText` reads a text file, and `Disk.write` writes a file and the directories above.
* `FileError` says why a path leads to nothing of use.
-/

namespace ScenarioRunner

/-- A file or a directory. -/
inductive FileTree where
  | file (bytes : List UInt8)
  | directory (entries : List (String × FileTree))
deriving Inhabited

/-- Why a path leads to nothing of use. -/
inductive FileError where
  | notFound
  | notDirectory
  | isDirectory
  | nameTooLong
  /-- A name holds a NUL character. -/
  | invalidName
  /-- A file is no UTF-8 text. -/
  | notText
deriving DecidableEq, Repr

def FileError.message : FileError → String
  | notFound => "No such file or directory (os error 2)"
  | notDirectory => "Not a directory (os error 20)"
  | isDirectory => "Is a directory (os error 21)"
  | nameTooLong => "File name too long (os error 36)"
  | invalidName => "file name contained an unexpected NUL byte"
  | notText => "stream did not contain valid UTF-8"

namespace FileTree

def empty : FileTree :=
  directory []

/-- The entries with one more, which replaces an entry with the same name. -/
def place (name : String) (t : FileTree) : List (String × FileTree) → List (String × FileTree)
  | [] => [(name, t)]
  | (n, u) :: rest => if n = name then (name, t) :: rest else (n, u) :: place name t rest

def child? (t : FileTree) (name : String) : Option FileTree :=
  match t with
  | file _ => none
  | directory entries => entries.lookup name

/-- The file or directory reached by some names. -/
def find? (t : FileTree) : List String → Option FileTree
  | [] => some t
  | name :: names => (t.child? name).bind fun u => u.find? names

/-- The tree with a file or directory put at some names; directories above are made if need be. -/
def put (t : FileTree) (names : List String) (new : FileTree) : FileTree :=
  match names with
  | [] => new
  | name :: names =>
    match t with
    | file bytes => file bytes
    | directory entries =>
      directory (place name (((directory entries).child? name |>.getD empty).put names new) entries)

mutual

/-- The files in a tree with their paths, where `path` is that of the tree itself. -/
def filesFrom (path : String) : FileTree → List (String × List UInt8)
  | file bytes => [(path, bytes)]
  | directory entries => filesIn path entries

/-- The files in some entries of the directory at a path. -/
def filesIn (path : String) : List (String × FileTree) → List (String × List UInt8)
  | [] => []
  | (name, t) :: rest => filesFrom (Path.join path name) t ++ filesIn path rest

end

end FileTree

/-- A tree of files, seen from one of its directories. -/
structure Disk where
  tree : FileTree
  /-- The names that lead to the directory from which relative paths are seen. -/
  here : List String

namespace Disk

/-- The largest number of bytes in a name, and in a path. -/
def maxName : Nat := 255

/-- The largest number of bytes in a path. -/
def maxPath : Nat := 4095

/-- Follows one name of a path from the directory at some names. -/
def follow (d : Disk) (names : List String) (segment : String) : Except FileError (List String) :=
  match d.tree.find? names with
  | none => .error .notFound
  | some (.file _) => .error .notDirectory
  | some t =>
    if segment = "" ∨ segment = "." then .ok names
    else if segment = ".." then .ok names.dropLast
    else if maxName < segment.utf8ByteSize then .error .nameTooLong
    else if (t.child? segment).isSome then .ok (names ++ [segment])
    else .error .notFound

/-- A path that may be followed: its names, and where they start. -/
def start (d : Disk) (path : String) : Except FileError (List String × List String) :=
  if path.isEmpty then .error .notFound
  else if path.contains (Char.ofNat 0) then .error .invalidName
  else if maxPath < path.utf8ByteSize then .error .nameTooLong
  else .ok (if Path.isAbsolute path then [] else d.here, Text.segments '/' path)

def locate (d : Disk) (path : String) : Except FileError (List String) := do
  let (names, segments) ← d.start path
  segments.foldlM d.follow names

/-- The file or directory at a path. -/
def get (d : Disk) (path : String) : Except FileError FileTree := do
  let names ← d.locate path
  match d.tree.find? names with
  | some t => .ok t
  | none => .error .notFound

def read (d : Disk) (path : String) : Except FileError (List UInt8) := do
  match ← d.get path with
  | .file bytes => .ok bytes
  | .directory _ => .error .isDirectory

def textOf (bytes : List UInt8) : Except FileError String :=
  match Text.Utf8.decode? bytes with
  | some cs => .ok (String.ofList cs)
  | none => .error .notText

def readText (d : Disk) (path : String) : Except FileError String := do
  textOf (← d.read path)

/-- The entries of a directory, if the path leads to one. -/
def entries? (d : Disk) (path : String) : Option (List (String × FileTree)) :=
  match d.get path with
  | .ok (.directory entries) => some entries
  | _ => none

def contains (d : Disk) (path : String) : Bool :=
  match d.get path with
  | .ok _ => true
  | .error _ => false

/-! ## Writing -/

/-- Follows one name of a path and makes a directory of this name if there is nothing. -/
def enter (at_ : Disk × List String) (segment : String) : Except FileError (Disk × List String) :=
  let (d, names) := at_
  match d.follow names segment with
  | .ok names => .ok (d, names)
  | .error .notFound =>
    .ok ({ d with tree := d.tree.put (names ++ [segment]) .empty }, names ++ [segment])
  | .error e => .error e

/-- Writes a file into the directory at a path.  Directories that are missing are made. -/
def write (d : Disk) (directory name : String) (bytes : List UInt8) : Except FileError Disk := do
  let (names, segments) ← d.start directory
  let (d, names) ← segments.foldlM enter (d, names)
  match d.tree.find? names with
  | some (.directory entries) =>
    if maxName < name.utf8ByteSize then .error .nameTooLong
    else
      match entries.lookup name with
      | some (.directory _) => .error .isDirectory
      | _ => .ok { d with tree := d.tree.put (names ++ [name]) (.file bytes) }
  | _ => .error .notDirectory

/-- The disk with a file or directory put at a path.  Directories that are missing are made. -/
def mount (d : Disk) (path : String) (t : FileTree) : Except FileError Disk := do
  let (names, segments) ← d.start path
  let (d, names) ← segments.foldlM enter (d, names)
  .ok { d with tree := d.tree.put names t }

end Disk

end ScenarioRunner
