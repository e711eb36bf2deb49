import ScenarioRunner.Text.Split

/-!
# Errors

What can go wrong in a run, by its cause, with one wording for each cause.

* `DiscoveryIssue` is a problem of one selector; issues are collected and stop nothing.
* `EnvironmentError` says why no environment was found for a scenario.
* `Error` collects the causes, and `Error.message` is their wording.  It names the scenario,
  environment or file concerned, because it ends up in the diagnostic of a verdict.
-/

namespace ScenarioRunner

/-- A problem of one selector. -/
structure DiscoveryIssue where
  /-- The text of the selector. -/
  selector : String
  /-- A class, or a producer of a class. -/
  source : String
  message : String
deriving DecidableEq, Repr

def DiscoveryIssue.text (i : DiscoveryIssue) : String :=
  i.source ++ " (" ++ i.selector ++ "): " ++ i.message

/-- Why no environment was found for a scenario. -/
inductive EnvironmentError where
  | notFound (name : String)
  /-- No environment was named, and several are defined. -/
  | ambiguous (candidates : List String)
  | noneDefined
  /-- The file of an environment is no environment. -/
  | invalid (path reason : String)
deriving DecidableEq, Repr

/-- The wording of an environment error. -/
def EnvironmentError.message : EnvironmentError → String
  | notFound name => "environment '" ++ name ++ "' not found"
  | ambiguous candidates =>
    "no environment named and several are defined (" ++ Text.joined ", " candidates ++
      "); name one explicitly"
  | noneDefined => "no environment defined"
  | invalid path reason => "invalid environment file '" ++ path ++ "': " ++ reason

/-- What can go wrong in a run. -/
inductive Error where
  | discovery (issue : DiscoveryIssue)
  | scenarioParse (path reason : String)
  | environment (cause : EnvironmentError)
  | submission (reason : String)
  | stream (reason : String)
  /-- A request to the backend failed. -/
  | request (reason : String)
  /-- A report could not be written. -/
  | materialization (path reason : String)
  | unexpectedStatus (failed total : Nat)
  | scenariosFailed (failed total : Nat)
  | config (reason : String)
  | configParse (reason : String)
  | io (reason : String)
  | fileRead (path reason : String)
  | json (reason : String)
  | yaml (reason : String)
  | internal (reason : String)
deriving DecidableEq, Repr

def Error.message : Error → String
  | discovery issue => "Discovery failed: " ++ issue.text
  | scenarioParse path reason => "Failed to parse scenario file '" ++ path ++ "': " ++ reason
  | environment cause => "Environment resolution failed: " ++ cause.message
  | submission reason => "Scenario submission failed: " ++ reason
  | stream reason => "Report stream broken: " ++ reason
  | request reason => "Execution backend request failed: " ++ reason
  | materialization path reason => "Failed to write report '" ++ path ++ "': " ++ reason
  | unexpectedStatus failed total =>
    toString failed ++ " of " ++ toString total ++
      " scenario(s) did not end with the expected status"
  | scenariosFailed failed total =>
    toString failed ++ " of " ++ toString total ++ " scenario(s) failed"
  | config reason => "Configuration error: " ++ reason
  | configParse reason => "Invalid configuration file: " ++ reason
  | io reason => "IO error: " ++ reason
  | fileRead path reason => "Failed to read file '" ++ path ++ "': " ++ reason
  | json reason => "JSON error: " ++ reason
  | yaml reason => "YAML error: " ++ reason
  | internal reason => "Internal error: " ++ reason

end ScenarioRunner
