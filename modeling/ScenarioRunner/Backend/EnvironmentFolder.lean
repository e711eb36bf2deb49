import ScenarioRunner.Document.Load
import ScenarioRunner.Error
import ScenarioRunner.Files.Name
import ScenarioRunner.Files.Tree
import ScenarioRunner.Model.Environment

/-!
# Environments in a directory

Every file `NAME.json` of a directory describes one environment.

* `EnvironmentFolder.list` lists the environments by their names; files that describe none are
  left out, so that a broken file does not hide the others.
* `EnvironmentFolder.defaultName` is the name of the only environment.
* `EnvironmentFolder.resolve` looks for an environment by name, in the file of that name first.
-/

namespace ScenarioRunner

/-- The directory at a path on a disk. -/
structure EnvironmentFolder where
  disk : Disk
  root : String

namespace EnvironmentFolder

/-- The environment that the content of the file at a path describes. -/
def ofContent (path : String) (content : Except FileError String) : Except Error Environment :=
  match content with
  | .error e => .error (.fileRead path e.message)
  | .ok text =>
    match Document.ofText Environment.decode text with
    | .ok e => .ok e
    | .error e => .error (.environment (.invalid path e.message))

/-- The environment that the file at a path describes. -/
def read (folder : EnvironmentFolder) (path : String) : Except Error Environment :=
  ofContent path (folder.disk.readText path)

/-- The names of the files that may describe environments, as the directory lists them. -/
def fileNames (folder : EnvironmentFolder) : List String :=
  (((folder.disk.entries? folder.root).getD []).map Prod.fst).filter fun name =>
    Path.extension? name == some "json"

/-- Puts an environment in front of the first one whose name does not come earlier. -/
def insert (e : Environment) : List Environment → List Environment
  | [] => [e]
  | f :: rest => if f.name < e.name then f :: insert e rest else e :: f :: rest

/-- The environments by their names; those with one name stay in their order. -/
def sorted (environments : List Environment) : List Environment :=
  environments.foldr insert []

/-- The environments by their names. -/
def list (folder : EnvironmentFolder) : List Environment :=
  sorted
    (folder.fileNames.filterMap fun name => (folder.read (Path.join folder.root name)).toOption)

/-- The name of the only environment. -/
def defaultName (folder : EnvironmentFolder) : Except Error String :=
  match folder.list.map Environment.name with
  | [] => .error (.environment .noneDefined)
  | [only] => .ok only
  | several => .error (.environment (.ambiguous several))

/-- The path of the file of an environment, if its name can be the name of a file. -/
def path? (folder : EnvironmentFolder) (name : String) : Option String :=
  if FileName.sanitize name = name ∧ name ≠ "" then some (Path.join folder.root (name ++ ".json"))
  else none

def holdsFile (folder : EnvironmentFolder) (path : String) : Bool :=
  match folder.disk.get path with
  | .ok (.file _) => true
  | _ => false

/-- The first environment with a name in the whole directory. -/
def search (folder : EnvironmentFolder) (name : String) : Except Error Environment :=
  match folder.list.find? fun e => e.name == name with
  | some e => .ok e
  | none => .error (.environment (.notFound name))

/-- The environment with a name.  The file of that name comes first, even if it is broken; if it
describes another environment, the whole directory is searched. -/
def resolve (folder : EnvironmentFolder) (name : String) : Except Error Environment :=
  match (folder.path? name).filter folder.holdsFile with
  | none => folder.search name
  | some path =>
    match folder.read path with
    | .error e => .error e
    | .ok e => if e.name = name then .ok e else folder.search name

end EnvironmentFolder

end ScenarioRunner
