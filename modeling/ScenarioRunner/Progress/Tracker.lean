import ScenarioRunner.Progress.Policy
import ScenarioRunner.Progress.Slot

/-!
# Tracking the steps of a running scenario

A tracker turns full snapshots of an execution into moves of single steps: a step starts, finishes
or is skipped.

* `Tracker.ofScenario` is the tracker of a scenario that has not started.
* `Tracker.observe` reads one snapshot in one run through the row of slots (`Tracker.scan`), and
  `Tracker.finish` closes what is open at the end.
* `Tracker.node?` is the node that a slot belongs to.

A step starts after the steps around it.  It finishes when its report first shows an outcome, after
everything below it; but a step with retries around or below it may fail and recover, so that it
finishes at the end only.
-/

namespace ScenarioRunner

/-- A move of a step, by its slot. -/
inductive Move where
  | started (slot : Nat)
  | finished (slot : Nat) (result : NodeResult)
  | skipped (slot : Nat) (reason : String)
deriving DecidableEq, Repr

def Move.slot : Move → Nat
  | started i => i
  | finished i _ => i
  | skipped i _ => i

/-- What a tracker knows of a step. -/
structure Mark where
  /-- The report that is acted on, without sub-steps. -/
  held : StepReport
  started : Bool
  /-- The step is finished or skipped, or its end is settled without a move. -/
  closed : Bool
deriving Inhabited

/-- What is known of a step at first. -/
def Mark.fresh : Mark :=
  ⟨StepReport.blank, false, false⟩

/-- What is known of the steps, and the moves made so far. -/
structure Board where
  marks : List Mark
  moves : List Move

namespace Board

def mark (b : Board) (i : Nat) : Mark :=
  b.marks.getD i .fresh

/-- The board with one mark changed. -/
def change (b : Board) (i : Nat) (f : Mark → Mark) : Board :=
  { b with marks := b.marks.modify i f }

def add (b : Board) (m : Move) : Board :=
  { b with moves := b.moves ++ [m] }

/-- Marks a step as started. -/
def begin (b : Board) (i : Nat) : Board :=
  (b.change i fun m => { m with started := true }).add (.started i)

/-- Starts a step at a depth, and before that the step around it, unless that has started.  The
scenario is at depth `0` and has no slot. -/
def start (b : Board) (slots : List Slot) : Nat → Nat → Board
  | 0, _ => b
  | depth + 1, i =>
    let around :=
      match (slots[i]?).bind Slot.parent? with
      | some parent => if (b.mark parent).started then b else b.start slots depth parent
      | none => b
    around.begin i

/-- The step around this one has started; the scenario has. -/
def parentStarted (b : Board) (slot : Slot) : Bool :=
  match slot.parent? with
  | some p => (b.mark p).started
  | none => true

/-- Closes a step: one that has started finishes with a result, another one is skipped if the step
around it has started. -/
def close (b : Board) (slot : Slot) (i : Nat) (result : StepReport → NodeResult) : Board :=
  let m := b.mark i
  if m.closed then b
  else
    let closed := b.change i fun m => { m with closed := true }
    if m.started then closed.add (.finished i (result m.held))
    else if b.parentStarted slot then closed.add (.skipped i "not executed")
    else closed

end Board

/-- The state of a scenario that runs. -/
structure Tracker where
  scenario : Node
  marks : List Mark
  /-- The report on the whole scenario that is acted on. -/
  root : StepReport
  /-- The snapshot that was observed last. -/
  last : Option ExecutionReport
  /-- The number of snapshots observed. -/
  snapshots : Nat

namespace Tracker

/-- The tracker of a scenario that has not started. -/
def ofScenario (scenario : Node) : Tracker :=
  ⟨scenario, List.replicate (Slot.ofScenario scenario).length .fresh, .blank, none, 0⟩

def slots (t : Tracker) : List Slot :=
  Slot.ofScenario t.scenario

def node? (t : Tracker) (i : Nat) : Option Node :=
  (t.slots[i]?).bind fun slot => t.scenario.at? slot.path

/-- The result of a step at the end of a run, by the last snapshot or by what broke the run. -/
def resultOf (last : Option ExecutionReport) (failure : Option String) (slot : Slot)
    (held : StepReport) : NodeResult :=
  match failure with
  | some reason => .failure reason
  | none => .ofStep held (last.bind fun r => r.report.at? slot.path)

/-- Closes the steps of some slots, one after the other. -/
def closeAll (slots : List Slot) (last : Option ExecutionReport) (failure : Option String)
    (indices : List Nat) (b : Board) : Board :=
  indices.foldl (fun b i =>
    match slots[i]? with
    | some slot => b.close slot i (resultOf last failure slot)
    | none => b) b

/-! ## Observing a snapshot -/

/-- A board, and the slots whose held reports were replaced by the snapshot that is observed. -/
structure Pass where
  board : Board
  replaced : List Nat

/-- Enters a step: takes its report from the snapshot, and starts it if the report is new and shows
it as executed. -/
def enter (slots : List Slot) (slot : Slot) (i : Nat) (r : ExecutionReport) (p : Pass) : Pass :=
  match r.report.at? slot.path with
  | none => p
  | some new =>
    let held := (p.board.mark i).held
    if new.replaces held slot.retryable then
      let board := p.board.change i fun m => { m with held := new.alone }
      ⟨if new.status != .notExecuted && !(board.mark i).started then
          board.start slots slot.path.length i
        else board,
        i :: p.replaced⟩
    else { p with board := p.board.change i fun m => { m with held := m.held.refreshed new } }

/-- The slots below a step, from the last to the first. -/
def below (slot : Slot) (i : Nat) : List Nat :=
  ((List.range slot.stop).drop (i + 1)).reverse

/-- A step is to be finished when it is left. -/
def finishes (slot : Slot) (i : Nat) (p : Pass) : Bool :=
  let m := p.board.mark i
  p.replaced.contains i && m.held.status.isTerminal && m.started && !m.closed && !slot.deferred

/-- Leaves a step: if its outcome is new, closes what is open below it and finishes it. -/
def leave (slots : List Slot) (slot : Slot) (i : Nat) (r : ExecutionReport) (p : Pass) : Pass :=
  if finishes slot i p then
    let held := (p.board.mark i).held
    let board := closeAll slots (some r) none (below slot i) p.board
    let board := board.change i fun m => { m with closed := true }
    { p with board := board.add (.finished i (.ofStep held (r.report.at? slot.path))) }
  else p

/-- Leaves the steps that have been entered and not left, the last one first, as far as everything
below them lies in front of slot `next`.  What is left of them is given with the pass. -/
def complete (slots : List Slot) (r : ExecutionReport) (next : Nat) :
    List (Nat × Slot) → Pass → List (Nat × Slot) × Pass
  | [], p => ([], p)
  | (i, slot) :: entered, p =>
    if next < slot.stop then ((i, slot) :: entered, p)
    else complete slots r next entered (leave slots slot i r p)

/-- Enters the steps of a row from slot `i` on, and leaves each before the next step that is not below
it. -/
def scan (slots : List Slot) (r : ExecutionReport) :
    List Slot → Nat → List (Nat × Slot) → Pass → Pass
  | [], i, entered, p => (complete slots r i entered p).2
  | slot :: rest, i, entered, p =>
    let (entered, p) := complete slots r i entered p
    scan slots r rest (i + 1) ((i, slot) :: entered) (enter slots slot i r p)

/-- Observes a snapshot: the moves that it causes, and the tracker behind it. -/
def observe (t : Tracker) (r : ExecutionReport) : List Move × Tracker :=
  let p := scan t.slots r t.slots 0 [] ⟨⟨t.marks, []⟩, []⟩
  let root := if r.report.replaces t.root false then r.report else t.root.refreshed r.report
  (p.board.moves,
    { t with marks := p.board.marks, root, last := some r, snapshots := t.snapshots + 1 })

/-- Closes all steps that are open when the stream has ended, from the last to the first.  Steps
that have started fail with what broke the run, if something did. -/
def finish (t : Tracker) (failure : Option String) : List Move × Tracker :=
  let b := closeAll t.slots t.last failure (List.range t.marks.length).reverse ⟨t.marks, []⟩
  (b.moves, { t with marks := b.marks })

/-- Observes snapshots one after the other. -/
def observeAll (t : Tracker) : List ExecutionReport → List Move × Tracker
  | [] => ([], t)
  | r :: rest =>
    let (moves, t) := t.observe r
    let (more, t) := observeAll t rest
    (moves ++ more, t)

end Tracker

end ScenarioRunner
