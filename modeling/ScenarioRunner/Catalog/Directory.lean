import ScenarioRunner.Catalog.Load
import ScenarioRunner.Files.Tree
import ScenarioRunner.Error

/-!
# Catalogs of directories

Every scenario file below a directory is a class, named after its path.

* `Catalog.className` turns a path into the name of a class.
* `Catalog.scenarioFiles` lists the scenario files below a directory by their paths.
* `Catalog.ofFiles` makes the catalog.  A file that cannot be read is a broken class, and so is a
  file whose class name is taken: no file is lost.
* `Catalog.load` makes the catalog of a directory on a disk, and `Producer.load` reads one file.
-/

namespace ScenarioRunner

/-- The producers in the content of the file at a path. -/
def Producer.ofFile (path : String) (content : Except FileError String) :
    Except Error (List Producer) :=
  match content with
  | .error e => .error (.fileRead path e.message)
  | .ok text =>
    match Producer.parseAll text with
    | .ok producers => .ok producers
    | .error reason => .error (.scenarioParse path reason)

/-- The producers in the file at a path. -/
def Producer.load (disk : Disk) (path : String) : Except Error (List Producer) :=
  Producer.ofFile path (disk.readText path)

namespace Catalog

/-- The extensions of scenario files. -/
def extensions : List String :=
  ["yaml", "yml", "json"]

/-- The path is that of a scenario file. -/
def isScenarioFile (path : String) : Bool :=
  match Path.extension? path with
  | some e => extensions.contains e
  | none => false

/-- The name of the class of a file: its path below the root, with points between the names and
without the extension. -/
def className (root file : String) : String :=
  Text.joined "."
    ((Path.components (Path.withoutExtension (Path.relativeOr root file))).map Path.Component.text)

/-- A scenario file. -/
structure SourceFile where
  path : String
  bytes : List UInt8

/-- Puts a file in front of the first one whose path comes later. -/
def insertFile (f : SourceFile) : List SourceFile → List SourceFile
  | [] => [f]
  | g :: rest => if Path.before f.path g.path then f :: g :: rest else g :: insertFile f rest

/-- The files in the order of their paths. -/
def sortFiles (files : List SourceFile) : List SourceFile :=
  files.foldr insertFile []

/-- The scenario files below the directory with a path, in the order of their paths. -/
def scenarioFiles (root : String) (entries : List (String × FileTree)) : List SourceFile :=
  sortFiles
    ((FileTree.filesIn root entries).filterMap fun (path, bytes) =>
      if isScenarioFile path then some ⟨path, bytes⟩ else none)

def ofFile (name : String) (f : SourceFile) : ClassSource :=
  match Producer.ofFile f.path (Disk.textOf f.bytes) with
  | .ok producers => ⟨name, producers, none⟩
  | .error e => .broken name e.message

/-- The class of a file whose class name belongs to another file: it is named after its path. -/
def duplicate (root name : String) (f : SourceFile) (first : String) : ClassSource :=
  .broken (Path.relativeOr root f.path)
    ("duplicate class name '" ++ name ++ "', already defined by " ++ Path.relativeOr root first)

/-- Adds files to a catalog.  `taken` holds the class names in use, each with its file. -/
def addFiles (root : String) :
    Catalog → List (String × String) → List SourceFile → Catalog
  | catalog, _, [] => catalog
  | catalog, taken, f :: rest =>
    let name := className root f.path
    match taken.lookup name with
    | some first => addFiles root (catalog.add (duplicate root name f first)) taken rest
    | none => addFiles root (catalog.add (ofFile name f)) ((name, f.path) :: taken) rest

/-- The catalog of some files below a root, which are in the order of their paths. -/
def ofFiles (root : String) (files : List SourceFile) : Catalog :=
  addFiles root .empty [] files

/-- The catalog of the directory at a path. -/
def load (disk : Disk) (root : String) : Except Error Catalog :=
  match disk.entries? root with
  | none => .error (.config ("Scenario directory '" ++ root ++ "' does not exist"))
  | some entries => .ok (ofFiles root (scenarioFiles root entries))

end Catalog

end ScenarioRunner
