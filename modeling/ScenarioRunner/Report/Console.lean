import ScenarioRunner.Model.Report
import ScenarioRunner.Report.Style

/-!
# Reports on a console

A report as lines of text: one for the scenario, and below it one for each step with its details.

* `Status.paint` writes a text in the colour of a status, or as it is.
* `StepReport.lines` lists the lines of a step at a depth, `ExecutionReport.lines` those of a report.
* `ExecutionReport.render` writes them out.

Each step is indented by two blanks per level, and its details by four more.  Three places differ
between a report in colours and a plain one: what is painted, the name of the scenario, and the
information of a step.
-/

namespace ScenarioRunner

/-- The text in the colour of a status, or as it is. -/
def Status.paint (coloured : Bool) (s : Status) (text : String) : Span :=
  if !coloured then .plain text
  else
    match s with
    | success => .styled (.ofColour .green) text
    | failure => .styled (.ofColour .red) text
    | running | paused => .styled (.ofColour .yellow) text
    | notExecuted | stopped => .styled .faint text

namespace StepReport

/-- The name of a step, with its target in parentheses. -/
def title (r : StepReport) : String :=
  match r.targetName with
  | some target => r.name ++ " (" ++ target ++ ")"
  | none => r.name

def headline (coloured : Bool) (depth : Nat) (r : StepReport) : Line :=
  [.indent depth, r.status.paint coloured r.status.glyph,
    .plain (" " ++ r.title ++ " " ++ toString r.duration.toNat ++ " ms")]

/-- The line of a piece of information of a step. -/
def informationLine (coloured : Bool) (depth : Nat) (text : String) : Line :=
  let line := "info: " ++ text
  [.indent (depth + 2), if coloured then .styled .faint line else .plain line]

/-- The line of an error of a step. -/
def errorLine (coloured : Bool) (depth : Nat) (text : String) : Line :=
  [.indent (depth + 2), Status.failure.paint coloured ("error: " ++ text)]

/-- The lines of the information and of the errors of a step. -/
def details (coloured : Bool) (depth : Nat) (r : StepReport) : List Line :=
  r.information.map (informationLine coloured depth) ++ r.errors.map (errorLine coloured depth)

mutual

/-- The lines of a step and the steps below it. -/
def lines (coloured : Bool) (depth : Nat) : StepReport → List Line
  | ⟨name, status, duration, startDate, errors, information, evaluatedInputs, stepOutputs, kind,
      targetName, strategy, steps⟩ =>
    let self : StepReport :=
      ⟨name, status, duration, startDate, errors, information, evaluatedInputs, stepOutputs, kind,
        targetName, strategy, []⟩
    self.headline coloured depth :: self.details coloured depth ++
      linesOf coloured (depth + 1) steps

def linesOf (coloured : Bool) (depth : Nat) : List StepReport → List Line
  | [] => []
  | step :: steps => step.lines coloured depth ++ linesOf coloured depth steps

end

end StepReport

namespace ExecutionReport

def headline (coloured : Bool) (r : ExecutionReport) : Line :=
  [r.status.paint coloured r.status.glyph, .plain " ",
    if coloured then .styled .strong r.scenarioName else .plain r.scenarioName,
    .plain (" [" ++ r.environment ++ "] "), r.status.paint coloured r.status.name,
    .plain (" in " ++ toString r.duration.toNat ++ " ms")]

/-- The lines of a report.  The root of its tree stands for the scenario and has none. -/
def lines (coloured : Bool) (r : ExecutionReport) : List Line :=
  r.headline coloured :: StepReport.linesOf coloured 1 r.report.steps

/-- The text of a report, where every style shows. -/
def render (r : ExecutionReport) (coloured : Bool) : String :=
  Line.textOfAll true (r.lines coloured)

end ExecutionReport

end ScenarioRunner
