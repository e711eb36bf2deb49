import ScenarioRunner.Backend.Http
import ScenarioRunner.Backend.Scripted
import ScenarioRunner.Catalog.Directory
import ScenarioRunner.Command.Arguments
import ScenarioRunner.Engine.Schedule
import ScenarioRunner.Launch
import ScenarioRunner.Report.Outline
import ScenarioRunner.Report.Transcript

/-!
# Sessions

A command is carried out in a session: a function from what it sees of the files, the variables, the
time and the network to what it shows and leaves behind.

* `Session` is what a command sees, and `Aftermath` what it shows and leaves behind.
* `SelectionArguments.request` turns the arguments of a command into a discovery request.
* `Session.perform` carries out a command, with one function for each command before it.

Settings come first, so that no command does anything under settings that are wrong.
-/

namespace ScenarioRunner

/-- What a command sees. -/
structure Session (σ : Type) where
  disk : Disk
  /-- The values of variables. -/
  lookup : String → Option String
  clock : Clock
  transport : Transport σ
  network : σ

/-- What a command shows and leaves behind. -/
structure Aftermath (σ : Type) where
  lines : List Line
  /-- Why the command failed, if it did. -/
  failure : Option Error
  state : σ
  archive : Archive

namespace Aftermath

variable {σ τ : Type}

def withState (a : Aftermath τ) (state : σ) : Aftermath σ :=
  ⟨a.lines, a.failure, state, a.archive⟩

def code (a : Aftermath σ) : Nat :=
  if a.failure.isSome then 1 else 0

end Aftermath

/-! ## Arguments -/

/-- The request of a command.  Packages come before classes and classes before producers; without any
of them everything is asked for. -/
def SelectionArguments.request (a : SelectionArguments) : Except Error DiscoveryRequest := do
  let methods ← a.methods.mapM Selector.parseMethod
  let selectors := a.packages.map Selector.package ++ a.classes.map Selector.class ++ methods
  .ok ⟨if selectors.isEmpty then [.all] else selectors, ⟨a.tags, a.excludedTags⟩⟩

/-- The settings with what arguments of a command put in their place.  At least one scenario has to
run at a time. -/
def Settings.withArguments (s : Settings) (address : Option String) (concurrency : Option UInt64) :
    Except Error Settings :=
  if concurrency = some 0 then .error (.config "--concurrency must be at least 1")
  else
    .ok
      { s with url := address.getD s.url, concurrency := concurrency.getD s.concurrency }

/-- The scripts of a dry run: none, so that every scenario ends with success.  If no environment is
defined, there is one for all scenarios. -/
def ScriptBook.ofDryRun (environments : List Environment) : ScriptBook :=
  ⟨if environments.isEmpty then [.named "LOCAL"] else environments, []⟩

/-! ## Running and launching on a backend -/

namespace Aftermath

variable {τ : Type}

/-- Runs a tree and writes its reports. -/
def ofTree (root : Node) (options : RunOptions) (verbose : Bool) (b : Backend τ) (s : τ)
    (archive : Archive) : Aftermath τ :=
  let outside := (Run.execute b options .quiet ⟨root, []⟩ s).outside
  let tally := Tally.ofEvents outside.events
  { lines := outside.events.flatMap (Event.lines verbose) ++ [[], tally.line]
    failure := tally.failure?
    state := outside.backend
    archive := archive.storeAll outside.written }

/-- Launches scenarios and writes their reports. -/
def ofLaunch (scenarios : List Scenario) (environment : Option String) (expected : Status)
    (b : Backend τ) (s : τ) (archive : Archive) : Aftermath τ :=
  match Launch.run b expected environment scenarios s archive with
  | (.error e, s, archive) => ⟨[], some e, s, archive⟩
  | (.ok summary, s, archive) =>
    ⟨summary.outcomes.flatMap LaunchOutcome.lines ++ [[], summary.line],
      summary.failure?, s, archive⟩

end Aftermath

namespace Session

variable {σ : Type}

/-- The variables that are looked at. -/
def variableNames : List String :=
  ["CHUTNEY_STEP_AS_TEST", "CHUTNEY_CONCURRENCY", "CHUTNEY_REPORT_ROOT",
    "CHUTNEY_ENVIRONMENT_ROOT", "CHUTNEY_BACKEND_URL", "XDG_CONFIG_HOME", "HOME", "CLICOLOR_FORCE",
    "CLICOLOR", "NO_COLOR"]

/-- An archive that takes no reports. -/
def closedArchive (s : Session σ) : Archive :=
  .ofFolder none s.clock s.disk

/-- What a command leaves behind that only shows something. -/
def shown (s : Session σ) (lines : List Line) : Aftermath σ :=
  ⟨lines, none, s.network, s.closedArchive⟩

/-- What a command leaves behind that does not get anywhere. -/
def failed (s : Session σ) (e : Error) : Aftermath σ :=
  ⟨[], some e, s.network, s.closedArchive⟩

def environments (s : Session σ) (settings : Settings) : EnvironmentFolder :=
  ⟨s.disk, settings.environmentRoot⟩

/-- The archive of the directory of reports. -/
def archive (s : Session σ) (settings : Settings) : Archive :=
  .ofFolder (some ⟨settings.reportRoot⟩) s.clock s.disk

/-- Uses the backend of the session: the server, or for a dry run the scripts that need none. -/
def onBackend (s : Session σ) (settings : Settings) (dryRun : Bool)
    (use : {τ : Type} → Backend τ → τ → Archive → Aftermath τ) : Aftermath σ :=
  let folder := s.environments settings
  let archive := s.archive settings
  if dryRun then
    (use (ScriptBook.ofDryRun folder.list).backend .initial archive).withState s.network
  else use (RemoteService.backend ⟨settings.url, folder⟩ s.transport) s.network archive

/-! ## Commands -/

/-- Shows the tree of scenarios below a directory. -/
def discover (s : Session σ) (settings : Settings) (directory : String)
    (selection : SelectionArguments) (asJson : Bool) : Except Error (Aftermath σ) := do
  let catalog ← Catalog.load s.disk directory
  let outcome := Discovery.discover catalog settings.stepAsTest (← selection.request)
  .ok (s.shown (if asJson then [[.plain outcome.encode.pretty]] else outcome.lines))

/-- Runs the scenarios below a directory. -/
def run (s : Session σ) (settings : Settings) (verbose : Bool) (directory : String)
    (selection : SelectionArguments) (dryRun : Bool) : Except Error (Aftermath σ) := do
  let catalog ← Catalog.load s.disk directory
  let outcome := Discovery.discover catalog settings.stepAsTest (← selection.request)
  if outcome.root.scenarioCount = 0 then
    .ok (s.shown (outcome.issueLines ++ [[.plain ("No scenarios found in " ++ directory)]]))
  else
    let aftermath :=
      s.onBackend settings dryRun (Aftermath.ofTree outcome.root (.ofSettings settings) verbose)
    .ok { aftermath with lines := outcome.issueLines ++ aftermath.lines }

/-- The scenarios of a file, in the order in which they are declared.  A producer that yields no
scenarios is passed over. -/
def scenariosOf (s : Session σ) (file : String) : Except Error (List Scenario) := do
  let producers ← Producer.load s.disk file
  .ok (producers.flatMap fun p => p.output.scenarios)

/-- Launches the scenarios of a file. -/
def launch (s : Session σ) (settings : Settings) (file : String) (environment : Option String)
    (expected : Status) (dryRun : Bool) : Except Error (Aftermath σ) := do
  let scenarios ← s.scenariosOf file
  .ok (s.onBackend settings dryRun (Aftermath.ofLaunch scenarios environment expected))

/-- The line of the default environment. -/
def defaultLine (folder : EnvironmentFolder) : Line :=
  [.plain "Default: ",
    match folder.defaultName with
    | .ok name => .styled .strong name
    | .error e => .styled .faint e.message]

def showEnvironments (s : Session σ) (settings : Settings) : Aftermath σ :=
  let folder := s.environments settings
  let environments := folder.list
  s.shown
    (if environments.isEmpty then [[.plain ("No environments in " ++ folder.root)]]
    else environments.flatMap Environment.lines ++ [[], defaultLine folder])

/-- Carries out a command under settings. -/
def performUnder (s : Session σ) (settings : Settings) (verbose : Bool) :
    Command → Except Error (Aftermath σ)
  | .discover directory selection asJson => s.discover settings directory selection asJson
  | .run directory selection address dryRun concurrency => do
    let settings ← settings.withArguments address concurrency
    s.run settings verbose directory selection dryRun
  | .launch file environment expected address dryRun => do
    let settings ← settings.withArguments address none
    s.launch settings file environment expected dryRun
  | .environments => .ok (s.showEnvironments settings)

def perform (s : Session σ) (verbose : Bool) (command : Command) : Aftermath σ :=
  match (do s.performUnder (← Settings.load s.disk s.lookup) verbose command) with
  | .ok aftermath => aftermath
  | .error e => s.failed e

/-- Lines are shown in colours: by force, or on a terminal unless a variable says not to. -/
def isColoured (s : Session σ) (onTerminal : Bool) : Bool :=
  let isForced := (s.lookup "CLICOLOR_FORCE").any (· != "0")
  let isRefused := (s.lookup "NO_COLOR").isSome || s.lookup "CLICOLOR" == some "0"
  isForced || (onTerminal && !isRefused)

end Session

end ScenarioRunner
