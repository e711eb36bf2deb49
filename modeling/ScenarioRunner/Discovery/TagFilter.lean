import ScenarioRunner.Model.Scenario

/-!
# Tag filters

A filter keeps the scenarios that carry one of the included tags, if there are any, and none of the
excluded ones.
-/

namespace ScenarioRunner

/-- Which scenarios to keep, by their tags. -/
structure TagFilter where
  included : List String
  excluded : List String
deriving DecidableEq, Repr

namespace TagFilter

/-- The filter that keeps every scenario. -/
def none : TagFilter :=
  ⟨[], []⟩

def isEmpty (f : TagFilter) : Bool :=
  f.included.isEmpty && f.excluded.isEmpty

def accepts (f : TagFilter) (s : Scenario) : Bool :=
  (f.included.isEmpty || f.included.any s.hasTag) && !f.excluded.any s.hasTag

end TagFilter

end ScenarioRunner
