import ScenarioRunner.Model.Report

/-!
# What a new report changes

A tracker holds one report for every step.  A new report on the step either replaces it, which may
move the step on, or only refreshes the parts of it that change while the step goes on.

* `StepReport.replaces` decides which of the two, and `StepReport.refreshed` does the second.
* `NodeResult` is the result of a node, and `NodeResult.ofStep` that of a step from its held report
  and the latest report on it.
-/

namespace ScenarioRunner

namespace StepReport

/-- The new report takes the place of the old one: its status differs, or a step that is tried again
has failed again. -/
def replaces (new old : StepReport) (retryable : Bool) : Bool :=
  old.status != new.status || (retryable && new.status == .failure)

/-- The old report with the parts that change while a step goes on. -/
def refreshed (old new : StepReport) : StepReport :=
  { old with
    duration := new.duration
    startDate := new.startDate
    information := new.information
    evaluatedInputs := new.evaluatedInputs
    stepOutputs := new.stepOutputs }

end StepReport

/-- The result of a node. -/
structure NodeResult where
  verdict : Verdict
  /-- Why the node failed. -/
  diagnostic : Option String
deriving DecidableEq, Repr

namespace NodeResult

/-- Success, which needs no explanation. -/
def success : NodeResult :=
  ⟨.success, none⟩

def failure (diagnostic : String) : NodeResult :=
  ⟨.failure, some diagnostic⟩

/-- A verdict without an explanation. -/
def ofVerdict (verdict : Verdict) : NodeResult :=
  ⟨verdict, none⟩

/-- The failure of a step that has errors of its own or below it, or none. -/
def ofFailures (name : String) : List String → NodeResult
  | [] => failure ("step '" ++ name ++ "' failed")
  | lines => failure (Text.joined "\n" lines)

/-- The result of a step: success if its held status says so and nothing below it has failed in the
latest report, failure with the errors found there if something has, and failure with the held
status otherwise. -/
def ofStep (held : StepReport) (latest : Option StepReport) : NodeResult :=
  let worst := Verdict.worst? (latest.bind StepReport.worst?) (Verdict.ofStatus? held.status)
  if worst = some .failure then ofFailures held.name (latest.elim [] StepReport.failures)
  else if held.status = .success then success
  else failure ("step '" ++ held.name ++ "' ended with status " ++ held.status.name)

end NodeResult

end ScenarioRunner
