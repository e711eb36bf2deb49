import ScenarioRunner.Document.Decode
import ScenarioRunner.Text.Blank

/-!
# Statuses and verdicts

* `Status` is what a backend says of a scenario or step; `Status.read` reads one from free text.
* `Verdict` is the outcome of a status that counts as one.  Failure is the worse of the two, and
  `Verdict.worst?` takes the worse of what is there.
-/

namespace ScenarioRunner

open Document

/-- What a backend says of a scenario or step. -/
inductive Status where
  | success
  | failure
  | running
  | paused
  | notExecuted
  | stopped
deriving DecidableEq, Repr, Inhabited, BEq

namespace Status

instance : LawfulBEq Status where
  eq_of_beq {a b} h := by cases a <;> cases b <;> first | rfl | exact absurd h (by decide)
  rfl {a} := by cases a <;> rfl

/-- Every status, in the order in which messages list them. -/
def all : List Status :=
  [success, failure, running, paused, notExecuted, stopped]

def name : Status → String
  | success => "SUCCESS"
  | failure => "FAILURE"
  | running => "RUNNING"
  | paused => "PAUSED"
  | notExecuted => "NOT_EXECUTED"
  | stopped => "STOPPED"

/-- The statuses that count as an outcome. -/
def isTerminal (s : Status) : Bool :=
  s = success || s = failure

/-- The statuses of something that goes on. -/
def isInProgress (s : Status) : Bool :=
  s = running || s = paused

/-- The text in the spelling of names: no blanks around it, capital letters, `_` for `-`. -/
def normalized (text : String) : String :=
  String.ofList
    ((Text.trim text.toList).map fun c => if c = '-' then '_' else c.toUpper)

def ofName? (name : String) : Option Status :=
  all.find? fun s => s.name == name

/-- Reads a status from free text, or gives the spelling that is no name. -/
def read (text : String) : Except String Status :=
  match ofName? (normalized text) with
  | some s => .ok s
  | none => .error (normalized text)

/-- The wording for a text that is no status. -/
def unknown (spelling : String) : String :=
  "unknown status '" ++ spelling ++ "'"

def decode : Decoder Status :=
  Decode.Variants.decode ⟨all.map fun s => (s.name, s)⟩

/-- The sign of a status in console output. -/
def glyph : Status → String
  | success => "✓"
  | failure => "✗"
  | running => "▶"
  | paused => "‖"
  | notExecuted => "○"
  | stopped => "■"

end Status

/-- The outcome of a scenario or step. -/
inductive Verdict where
  | success
  | failure
deriving DecidableEq, Repr, Inhabited, BEq

namespace Verdict

/-- The outcome of a status that counts as one. -/
def ofStatus? : Status → Option Verdict
  | .success => some success
  | .failure => some failure
  | _ => none

def name : Verdict → String
  | success => "SUCCESS"
  | failure => "FAILURE"

def worse : Verdict → Verdict → Verdict
  | success, success => success
  | _, _ => failure

def worst? : Option Verdict → Option Verdict → Option Verdict
  | none, v => v
  | some v, none => some v
  | some v, some w => some (v.worse w)

end Verdict

end ScenarioRunner
