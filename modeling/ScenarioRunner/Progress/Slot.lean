import ScenarioRunner.Discovery.Node

/-!
# Slots

The step nodes of a scenario in one row, each before its descendants.  Reports are matched to steps
by position, so that a slot knows the positions of its step.

* `Slot` is the place of a step: where it stands in the tree, and whether it is tried again.
* `Slot.index` puts the slots of a step and its descendants behind a row, and `Slot.ofScenario` lists
  those of a scenario.

A slot is put into the row before what lies below its step is known.  What depends on that is filled
in when the descendants have been put behind it.
-/

namespace ScenarioRunner

/-- The place of a step among the steps of a scenario. -/
structure Slot where
  /-- The positions of the step from the scenario down. -/
  path : List Nat
  /-- The slot of the step right around this one. -/
  parent? : Option Nat
  /-- The first slot behind this one that is no descendant. -/
  stop : Nat
  /-- The step or one around it is tried again until it succeeds. -/
  retryable : Bool
  /-- The step, one around it or one below it is tried again, so that its result is open until the
  end. -/
  deferred : Bool
deriving DecidableEq, Repr, Inhabited

namespace Slot

mutual

/-- Puts the slots of a step and of its descendants behind a row.  `retried` tells whether a step
around it is tried again; the result tells whether the step, one around it or one below it is. -/
def index (path : List Nat) (parent? : Option Nat) (retried : Bool) (row : List Slot) :
    Node → Bool × List Slot
  | ⟨_, _, _, _, retryable, children⟩ =>
    let self := row.length
    let scope := retried || retryable
    let (below, row) :=
      indexAll path 0 (some self) scope false (row ++ [⟨path, parent?, self + 1, scope, scope⟩])
        children
    (scope || below,
      row.modify self fun s => { s with stop := row.length, deferred := s.deferred || below })

/-- Puts the slots of the steps at the positions from `rank` on below `path` behind a row.  `below`
tells what was found in the positions before. -/
def indexAll (path : List Nat) (rank : Nat) (parent? : Option Nat) (retried below : Bool)
    (row : List Slot) : List Node → Bool × List Slot
  | [] => (below, row)
  | node :: nodes =>
    let (found, row) := index (path ++ [rank]) parent? retried row node
    indexAll path (rank + 1) parent? retried (below || found) row nodes

end

def ofScenario (scenario : Node) : List Slot :=
  (indexAll [] 0 none false false [] scenario.children).2

end Slot

end ScenarioRunner
