import ScenarioRunner.Toml.Reader
import ScenarioRunner.Files.Tree
import ScenarioRunner.Error
import ScenarioRunner.Text.Blank

/-!
# Settings

The settings of a session: defaults, over them a configuration file, over that variables.

* `Settings.ofText?` reads a configuration, `Settings.ofFile` the file at a path.
* `Settings.override` applies variables and checks the result.
* `Settings.load` does all of it: the file in the working directory comes before the one of the user.
-/

namespace ScenarioRunner

/-- The settings of a session. -/
structure Settings where
  /-- Steps are nodes of the tree. -/
  stepAsTest : Bool := true
  /-- How many scenarios of a class run at once. -/
  concurrency : UInt64 := 1
  reportRoot : String := ".chutney/report"
  environmentRoot : String := ".chutney/environments"
  url : String := "http://localhost:8443"
  requestTimeoutSeconds : UInt64 := 30
deriving Repr

namespace Settings

/-! ## Sections of a configuration -/

/-- Reads a field of a section into settings. -/
abbrev FieldReader := Toml → Settings → Option Settings

def bool (store : Bool → Settings → Settings) : FieldReader
  | .bool b, s => some (store b s)
  | _, _ => none

/-- Reads a whole number without a sign. -/
def word (store : UInt64 → Settings → Settings) : FieldReader
  | .int n, s => if 0 ≤ n then some (store (UInt64.ofNat n.toNat) s) else none
  | _, _ => none

def string (store : String → Settings → Settings) : FieldReader
  | .str t, s => some (store t s)
  | _, _ => none

/-- The sections of a configuration, each with its fields in their order. -/
def sections : List (String × List (String × FieldReader)) :=
  [("engine",
      [("step_as_test", bool fun b s => { s with stepAsTest := b }),
        ("concurrency", word fun n s => { s with concurrency := n })]),
    ("paths",
      [("report_root", string fun t s => { s with reportRoot := t }),
        ("environment_root", string fun t s => { s with environmentRoot := t })]),
    ("backend",
      [("url", string fun t s => { s with url := t }),
        ("request_timeout_secs", word fun n s => { s with requestTimeoutSeconds := n })])]

/-- Reads the entries of a section; entries that are no fields are skipped. -/
def readEntries (fields : List (String × FieldReader)) (entries : Toml.Entries) (s : Settings) :
    Option Settings :=
  entries.foldlM (fun s (key, value) =>
    match fields.lookup key with
    | some read => read value s
    | none => some s) s

/-- Reads the items of a section that is given as an array of its fields. -/
def readItems : List (String × FieldReader) → List Toml → Settings → Option Settings
  | (_, read) :: fields, item :: items, s => (read item s).bind (readItems fields items)
  | _, _, s => some s

/-- Reads a section.  A date has no fields. -/
def readSection (fields : List (String × FieldReader)) : FieldReader
  | .table _ entries, s => readEntries fields entries s
  | .array items, s => readItems fields items s
  | .tables elements, s => readItems fields (elements.reverse.map (.table .header)) s
  | .time _, s => some s
  | _, _ => none

def ofText? (text : String) : Option Settings := do
  let entries ← Toml.parse? text
  readEntries (sections.map fun (name, fields) => (name, readSection fields)) entries {}

/-- Reads the configuration in the file at a path. -/
def ofFile (disk : Disk) (path : String) : Except Error Settings :=
  match disk.readText path with
  | .error e => .error (.fileRead path e.message)
  | .ok text =>
    match ofText? text with
    | some s => .ok s
    | none => .error (.configParse "<toml>")

/-! ## Variables -/

/-- Reads a truth value from the text of a variable. -/
def bool? (text : String) : Option Bool :=
  let word := Text.lowered (Text.trimmed text)
  if ["true", "1", "yes", "on"].contains word then some true
  else if ["false", "0", "no", "off"].contains word then some false
  else none

/-- Reads a whole number of 64 bits; a plus sign may stand in front. -/
def word? (text : String) : Option UInt64 :=
  let digits :=
    match text.toList with
    | '+' :: rest => rest
    | s => s
  if digits.isEmpty || !digits.all Char.isDigit then none
  else
    let n := Decimal.ofDigits digits
    if n < Nat.pow 2 64 then some (UInt64.ofNat n) else none

/-- The value of a variable, read by `read`. -/
def fromVariable {α : Type} (lookup : String → Option String) (name kind : String)
    (read : String → Option α) (otherwise : α) : Except Error α :=
  match lookup name with
  | none => .ok otherwise
  | some text =>
    match read text with
    | some x => .ok x
    | none => .error (.config (name ++ " must be " ++ kind ++ ", got '" ++ text ++ "'"))

/-- The settings with variables applied.  At least one scenario has to run at a time. -/
def override (s : Settings) (lookup : String → Option String) : Except Error Settings := do
  let stepAsTest ← fromVariable lookup "CHUTNEY_STEP_AS_TEST" "a boolean" bool? s.stepAsTest
  let concurrency ←
    fromVariable lookup "CHUTNEY_CONCURRENCY" "an integer" (fun t => word? (Text.trimmed t))
      s.concurrency
  if concurrency = 0 then .error (.config "engine.concurrency must be at least 1")
  else
    .ok
      { s with
        stepAsTest
        concurrency
        reportRoot := (lookup "CHUTNEY_REPORT_ROOT").getD s.reportRoot
        environmentRoot := (lookup "CHUTNEY_ENVIRONMENT_ROOT").getD s.environmentRoot
        url := (lookup "CHUTNEY_BACKEND_URL").getD s.url }

/-! ## Files -/

/-- The configuration file in the working directory. -/
def localFile : String := "chutney.toml"

/-- The configuration file of the user: below the directory for configurations, which has to be an
absolute path, or else below the home directory. -/
def userFile? (lookup : String → Option String) : Option String :=
  let given (name : String) : Option String := (lookup name).filter (!String.isEmpty ·)
  let base :=
    match (given "XDG_CONFIG_HOME").filter Path.isAbsolute with
    | some path => some path
    | none => (given "HOME").map fun home => Path.join home ".config"
  base.map fun path => Path.join (Path.join path "chutney") "config.toml"

def load (disk : Disk) (lookup : String → Option String) : Except Error Settings := do
  let path :=
    if disk.contains localFile then some localFile
    else (userFile? lookup).filter disk.contains
  let settings ←
    match path with
    | some path => ofFile disk path
    | none => .ok {}
  settings.override lookup

end Settings

end ScenarioRunner
