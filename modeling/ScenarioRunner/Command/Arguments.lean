import ScenarioRunner.Model.Status
import ScenarioRunner.Settings
import ScenarioRunner.Text.Split

/-!
# Arguments

The words of a command line as a command.

* `Command` lists the commands with their arguments.
* `OptionSpec` describes an option, and `ArgumentReader.read` reads words by a list of them.
* `Command.parse` reads a command line.

An option is written `--name`, with its value in the next word or behind `=`.  A word that starts
with a minus sign is no value, except a single one.  Behind `--` no word is an option.
-/

namespace ScenarioRunner

/-- Which scenarios are asked for on a command line. -/
structure SelectionArguments where
  packages : List String
  classes : List String
  methods : List String
  tags : List String
  excludedTags : List String
deriving DecidableEq, Repr

/-- What is asked for on a command line. -/
inductive Command where
  /-- Shows the tree of scenarios below a directory, as lines or as JSON. -/
  | discover (directory : String) (selection : SelectionArguments) (asJson : Bool)
  /-- Runs the scenarios below a directory. -/
  | run (directory : String) (selection : SelectionArguments) (address : Option String)
    (dryRun : Bool) (concurrency : Option UInt64)
  /-- Runs the scenarios of one file and checks their final statuses. -/
  | launch (file : String) (environment : Option String) (expected : Status)
    (address : Option String) (dryRun : Bool)
  /-- Shows the environments. -/
  | environments
deriving DecidableEq, Repr

/-- The paths of the files that a command is about. -/
def Command.paths : Command → List String
  | discover directory _ _ => [directory]
  | run directory _ _ _ _ => [directory]
  | launch file _ _ _ _ => [file]
  | environments => []

/-- A command line. -/
inductive CommandLine where
  | command (verbose : Bool) (command : Command)
  | help
  | version
  /-- The words make no command. -/
  | refused
deriving DecidableEq, Repr

/-! ## Options -/

/-- An option of a command. -/
structure OptionSpec where
  name : String
  takesValue : Bool
  isRepeatable : Bool
  /-- The text is a value of the option. -/
  accepts : String → Bool

namespace OptionSpec

def flag (name : String) : OptionSpec :=
  ⟨name, false, false, fun _ => false⟩

def value (name : String) (accepts : String → Bool) : OptionSpec :=
  ⟨name, true, false, accepts⟩

/-- An option with a value that may be given several times. -/
def values (name : String) : OptionSpec :=
  ⟨name, true, true, fun _ => true⟩

end OptionSpec

/-- What was read of some words. -/
structure Words where
  /-- The words that are no options. -/
  positionals : List String
  /-- The options with their values; an option without a value has an empty one. -/
  options : List (String × String)
deriving DecidableEq, Repr

namespace Words

def none : Words :=
  ⟨[], []⟩

def valuesOf (w : Words) (name : String) : List String :=
  (w.options.filter fun o => o.1 == name).map Prod.snd

def valueOf? (w : Words) (name : String) : Option String :=
  w.options.lookup name

def has (w : Words) (name : String) : Bool :=
  (w.valueOf? name).isSome

end Words

/-- Why reading stopped. -/
inductive Stop where
  | help
  | version
  | refused
deriving DecidableEq, Repr

namespace ArgumentReader

/-- The option that asks for all that can be shown. -/
def verbose : String := "verbose"

def take (specs : List OptionSpec) (name : String) (value : Option String) (w : Words) :
    Except Stop Words :=
  match specs.find? fun s => s.name == name with
  | none => .error .refused
  | some spec =>
    if w.has name && !spec.isRepeatable then .error .refused
    else
      match spec.takesValue, value with
      | true, some v =>
        if spec.accepts v then .ok { w with options := w.options ++ [(name, v)] }
        else .error .refused
      | false, none => .ok { w with options := w.options ++ [(name, "")] }
      | _, _ => .error .refused

/-- Takes options of one letter that stand in one word. -/
def takeLetters (specs : List OptionSpec) (knowsVersion : Bool) :
    List Char → Words → Except Stop Words
  | [], w => .ok w
  | 'v' :: rest, w => do takeLetters specs knowsVersion rest (← take specs verbose none w)
  | 'h' :: _, _ => .error .help
  | 'V' :: _, _ => .error (if knowsVersion then .version else .refused)
  | _ :: _, _ => .error .refused

def takePositional (limit : Nat) (word : String) (w : Words) : Except Stop Words :=
  if word.isEmpty || limit ≤ w.positionals.length then .error .refused
  else .ok { w with positionals := w.positionals ++ [word] }

/-- The word can be the value of the option in front of it. -/
def isValue (word : String) : Bool :=
  word == "-" || word.toList.head? != some '-'

/-- A long option with the value behind `=`. -/
def splitOption (cs : List Char) : String × Option String :=
  match Text.splitOnce '=' cs with
  | some (name, value) => (String.ofList name, some (String.ofList value))
  | none => (String.ofList cs, none)

/-- The option is known and has a value of its own. -/
def wantsValue (specs : List OptionSpec) (name : String) : Bool :=
  match specs.find? fun s => s.name == name with
  | some spec => spec.takesValue
  | none => false

/-- Reads words, of which at most `limit` are no options. -/
def read (specs : List OptionSpec) (limit : Nat) : List String → Words → Except Stop Words
  | [], w => .ok w
  | word :: rest, w =>
    match word.toList with
    | ['-', '-'] => rest.foldlM (fun w word => takePositional limit word w) w
    | '-' :: '-' :: cs =>
      let (name, value) := splitOption cs
      if name = "help" && value.isNone then .error .help
      else if wantsValue specs name && value.isNone then
        match rest with
        | [] => .error .refused
        | next :: rest =>
          if isValue next then do read specs limit rest (← take specs name (some next) w)
          else .error .refused
      else do read specs limit rest (← take specs name value w)
    | '-' :: c :: cs => do read specs limit rest (← takeLetters specs false (c :: cs) w)
    | _ => do read specs limit rest (← takePositional limit word w)

end ArgumentReader

/-! ## Commands -/

namespace Command

open OptionSpec

/-- The option that every command knows. -/
def commonOptions : List OptionSpec :=
  [flag ArgumentReader.verbose]

/-- The options that select scenarios. -/
def selectionOptions : List OptionSpec :=
  [values "package", values "class", values "method", values "tag", values "exclude-tag"]

/-- The options that choose a backend. -/
def backendOptions : List OptionSpec :=
  [value "backend-url" fun _ => true, flag "dry-run"]

/-- The options of `discover`. -/
def discoverOptions : List OptionSpec :=
  commonOptions ++ selectionOptions ++ [flag "json"]

/-- The options of `run`. -/
def runOptions : List OptionSpec :=
  commonOptions ++ selectionOptions ++ backendOptions ++
    [value "concurrency" fun v => (Settings.word? v).isSome]

/-- The options of `launch`. -/
def launchOptions : List OptionSpec :=
  commonOptions ++ backendOptions ++
    [value "env" fun _ => true, value "expect" fun v => (Status.read v).toOption.isSome]

def selectionOf (w : Words) : SelectionArguments :=
  ⟨w.valuesOf "package", w.valuesOf "class", w.valuesOf "method", w.valuesOf "tag",
    w.valuesOf "exclude-tag"⟩

/-- The arguments of `discover`. -/
def discoverOf? (w : Words) : Option Command :=
  w.positionals.head?.map fun directory => discover directory (selectionOf w) (w.has "json")

/-- The arguments of `run`. -/
def runOf? (w : Words) : Option Command :=
  w.positionals.head?.map fun directory =>
    run directory (selectionOf w) (w.valueOf? "backend-url") (w.has "dry-run")
      ((w.valueOf? "concurrency").bind Settings.word?)

/-- The arguments of `launch`; scenarios are expected to end with success. -/
def launchOf? (w : Words) : Option Command :=
  w.positionals.head?.map fun file =>
    launch file (w.valueOf? "env")
      (((w.valueOf? "expect").bind fun v => (Status.read v).toOption).getD .success)
      (w.valueOf? "backend-url") (w.has "dry-run")

/-- The commands by name: options, number of words that are no options, and the reading. -/
def forms : List (String × List OptionSpec × Nat × (Words → Option Command)) :=
  [("discover", discoverOptions, 1, discoverOf?), ("run", runOptions, 1, runOf?),
    ("launch", launchOptions, 1, launchOf?),
    ("environments", commonOptions, 0, fun _ => some environments)]

def stopped : Stop → CommandLine
  | .help => .help
  | .version => .version
  | .refused => .refused

/-- Reads the arguments of the command with a name. -/
def parseForm (verbose : Bool) (name : String) (words : List String) : CommandLine :=
  match forms.lookup name with
  | none => .refused
  | some (specs, limit, reading) =>
    match ArgumentReader.read specs limit words .none with
    | .error stop => stopped stop
    | .ok w =>
      match reading w with
      | some c => .command (verbose || w.has ArgumentReader.verbose) c
      | none => .refused

/-- Reads what help is asked for: nothing, or a command. -/
def parseHelp : List String → CommandLine
  | [] => .help
  | [name] => if name = "help" ∨ (forms.lookup name).isSome then .help else .refused
  | _ => .refused

/-- Reads the words in front of the name of a command and then the command. -/
def parseWords (w : Words) : List String → CommandLine
  | [] => .refused
  | word :: rest =>
    match word.toList with
    | '-' :: '-' :: cs =>
      if cs = "help".toList then .help
      else if cs = "version".toList then .version
      else
        match ArgumentReader.take commonOptions (ArgumentReader.splitOption cs).1
            (ArgumentReader.splitOption cs).2 w with
        | .ok w => parseWords w rest
        | .error stop => stopped stop
    | '-' :: c :: cs =>
      match ArgumentReader.takeLetters commonOptions true (c :: cs) w with
      | .ok w => parseWords w rest
      | .error stop => stopped stop
    | _ =>
      if word = "help" then parseHelp rest
      else parseForm (w.has ArgumentReader.verbose) word rest

def parse (words : List String) : CommandLine :=
  parseWords .none words

/-! ## Help -/

/-- The name and the version of the program. -/
def version : String := "chutney 0.1.0"

def usage : List String :=
  ["Usage: chutney [-v] discover DIR [SELECTION] [--json]",
    "       chutney [-v] run DIR [SELECTION] [BACKEND] [--concurrency N]",
    "       chutney [-v] launch FILE [--env NAME] [--expect STATUS] [BACKEND]",
    "       chutney [-v] environments",
    "SELECTION: --package NAME, --class NAME, --method CLASS#PRODUCER, --tag TAG, --exclude-tag TAG",
    "BACKEND: --backend-url URL, --dry-run"]

end Command

end ScenarioRunner
