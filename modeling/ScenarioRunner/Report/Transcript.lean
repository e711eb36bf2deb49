import ScenarioRunner.Engine.Event
import ScenarioRunner.Error
import ScenarioRunner.Report.Style

/-!
# The transcript of a run

What is shown of the events of a run: a line for each class that starts and for each scenario that is
finished, with the reasons of failures, and lines for steps.

* `Event.lines` are the lines of an event; steps that succeed or are skipped have lines only if all
  is to be shown.
* `Tally` counts the scenarios that are finished, and those among them that failed.
-/

namespace ScenarioRunner

def Verdict.mark : Verdict → Span
  | .success => .styled (.ofColour .green) "✓"
  | .failure => .styled (.ofColour .red) "✗"

/-- The blanks in front of the lines of a node: classes have none. -/
def Node.indent (n : Node) : Span :=
  .indent (n.id.segments.length - 2)

namespace Event

/-- The line of a class that starts. -/
def classLine (name : String) : Line :=
  [.styled (.boldIn .blue) "▶", .plain " ", .styled (.boldIn .white) name]

/-- The lines of a scenario that is finished. -/
def scenarioLines (n : Node) (source : ScenarioSource) (result : NodeResult) : List Line :=
  [n.indent, result.verdict.mark, .plain (" " ++ n.name ++ " "),
      .styled .faint ("[" ++ source.environment.getD "default" ++ "]")] ::
    ((result.diagnostic.map Text.linesOf).getD []).map fun text =>
      [n.indent, .plain "    ", .styled (.ofColour .red) text]

/-- The line of a step that is finished. -/
def stepLine (n : Node) (result : NodeResult) : Line :=
  [n.indent, result.verdict.mark, .plain " ", .styled .faint n.name]

/-- The line of a node that is skipped. -/
def skipLine (n : Node) (reason : String) : Line :=
  [n.indent, .styled .faint "○", .plain (" " ++ n.name ++ " "),
    .styled .faint ("(" ++ reason ++ ")")]

/-- The lines of an event; `verbose` asks for those of all steps. -/
def lines (verbose : Bool) (e : Event) : List Line :=
  match e.change, e.node.source with
  | .started, .class name => [classLine name]
  | .finished result, .scenario source => scenarioLines e.node source result
  | .finished result, .step _ _ =>
    if verbose || result.verdict == .failure then [stepLine e.node result] else []
  | .skipped reason, _ =>
    if verbose || e.node.isScenario then [skipLine e.node reason] else []
  | _, _ => []

end Event

/-- How many scenarios are finished. -/
structure Tally where
  failed : Nat
  total : Nat
deriving DecidableEq, Repr

namespace Tally

def add (t : Tally) (e : Event) : Tally :=
  match e.change, e.node.source with
  | .finished result, .scenario _ =>
    ⟨t.failed + (if result.verdict = .failure then 1 else 0), t.total + 1⟩
  | _, _ => t

def ofEvents (events : List Event) : Tally :=
  events.foldl add ⟨0, 0⟩

/-- The error of a run in which not all scenarios passed. -/
def failure? (t : Tally) : Option Error :=
  if t.failed = 0 then none else some (.scenariosFailed t.failed t.total)

def line (t : Tally) : Line :=
  if t.failed = 0 then
    [.styled (.boldIn .green) "✓", .plain (" " ++ toString t.total ++ " scenario(s) passed")]
  else
    [.styled (.boldIn .red) "✗",
      .plain (" " ++ toString t.failed ++ " of " ++ toString t.total ++ " scenario(s) failed")]

end Tally

end ScenarioRunner
