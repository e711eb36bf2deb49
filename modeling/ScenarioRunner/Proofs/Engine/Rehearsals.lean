import ScenarioRunner.Proofs.Engine.Isolation
import ScenarioRunner.Proofs.Engine.Replies
import ScenarioRunner.Proofs.Progress.Rehearsal

/-!
# Rehearsals

A backend that replays scripts lets a scenario without a script run and succeed in every step.  This
file says what a run tells of such a scenario, whatever its steps look like.

* `Rehearsal` is what is told: the scenario and each of its steps start and finish with success, and
  they start in the order of the tree.
* `Job.filter_stepEvents` and `Job.filter_isStart_stepEvents` pick what is told of one step, and the
  starts.
* `Job.rehearsal_of_uniform`: a stream of two snapshots in which all steps go on and then have succeeded
  makes a rehearsal.
* `ScriptBook.lasts_of_gives`: a scenario without a script has such a stream.
* `Run.Completes.exists_gives`: what a run tells of a scenario on a backend with fixed answers.
* `Run.rehearsal_of_completes`: in every run of a tree it is rehearsed, whether steps are tests or not.
-/

namespace ScenarioRunner

/-- **A rehearsal** of the scenario at a place, by the events that are told. -/
structure Rehearsal (i j : Nat) (scenario : Node) (events : List Event) : Prop where
  /-- The scenario starts, its final report is published, and it finishes with success. -/
  ofScenario : ∃ report, events.filter (fun e => e.subject == .scenarioAt i j) =
    [⟨.scenarioAt i j, scenario, .started⟩, ⟨.scenarioAt i j, scenario, .published report⟩,
      ⟨.scenarioAt i j, scenario, .finished .success⟩]
  /-- Each step starts and finishes with success, and nothing else happens to it. -/
  ofStep : ∀ k, events.filter (fun e => e.subject == .stepAt i j k) =
    ((Node.descendantsOf scenario.children)[k]?).elim [] fun step =>
      [⟨.stepAt i j k, step, .started⟩, ⟨.stepAt i j k, step, .finished .success⟩]
  /-- The scenario starts first, and then its steps in the order of the tree. -/
  starts : events.filter (fun e => e.subject.isWithinScenario i j && e.isStart) =
    ⟨.scenarioAt i j, scenario, .started⟩ ::
      (Node.descendantsOf scenario.children).mapIdx fun k step => ⟨.stepAt i j k, step, .started⟩

/-- Only what is told at or below the scenario matters. -/
lemma Rehearsal.of_filter {i j : Nat} {scenario : Node} {events : List Event}
    (h : Rehearsal i j scenario (events.filter fun e => e.subject.isWithinScenario i j)) :
    Rehearsal i j scenario events := by
  have hsubject : ∀ subject : Subject, subject.isWithinScenario i j = true →
      (events.filter fun e => e.subject.isWithinScenario i j).filter (fun e => e.subject == subject) =
        events.filter fun e => e.subject == subject := by
    intro subject hwithin
    rw [List.filter_filter]
    refine List.filter_congr fun e _ => ?_
    cases hequal : e.subject == subject with
    | false => rfl
    | true => rw [beq_iff_eq.mp hequal, hwithin, Bool.and_true]
  have hstarts := h.starts
  rw [List.filter_filter] at hstarts
  refine ⟨?_, fun k => ?_, ?_⟩
  · rw [← hsubject _ (by simp [Subject.isWithinScenario])]
    exact h.ofScenario
  · rw [← hsubject _ (by simp [Subject.isWithinScenario])]
    exact h.ofStep k
  · rw [← hstarts]
    refine List.filter_congr fun e _ => ?_
    cases e.subject.isWithinScenario i j <;> simp

/-! ## What is told of steps -/

namespace Job

variable {job : Job} {options : RunOptions} {opened : Except Error (ExecutionId × List Item)}
  {r last : ExecutionReport}

lemma stepEvents_append (moves more : List Move) :
    job.stepEvents (moves ++ more) = job.stepEvents moves ++ job.stepEvents more :=
  List.filterMap_append ..

/-- What is told of one step is what its moves tell. -/
lemma filter_stepEvents (moves : List Move) (k : Nat) :
    (job.stepEvents moves).filter (fun e => e.subject == .stepAt job.group job.place k) =
      job.stepEvents (Move.ofSlot k moves) := by
  rw [stepEvents, stepEvents, Move.ofSlot, List.filter_filterMap, List.filterMap_filter]
  refine List.filterMap_congr fun m _ => ?_
  rw [stepEvent?_eq]
  cases (Node.descendantsOf job.node.children)[m.slot]? with
  | none => simp
  | some step => by_cases hslot : m.slot = k <;> simp [hslot]

/-- The starts that are told of steps are those of the slots that start. -/
lemma filter_isStart_stepEvents (moves : List Move) :
    (job.stepEvents moves).filter Event.isStart =
      (Move.starts moves).filterMap fun k => job.stepEvent? (.started k) := by
  rw [stepEvents, Move.starts, List.filter_filterMap, List.filterMap_filterMap]
  refine List.filterMap_congr fun m _ => ?_
  rw [stepEvent?_eq]
  cases m with
  | started k =>
      rw [Move.start?, Option.bind_some, stepEvent?_eq, Move.slot]
      cases (Node.descendantsOf job.node.children)[k]? <;> rfl
  | finished k =>
      rw [Move.slot]
      cases (Node.descendantsOf job.node.children)[k]? <;> rfl
  | skipped k =>
      rw [Move.slot]
      cases (Node.descendantsOf job.node.children)[k]? <;> rfl

/-- Nothing is told of a step that there is not. -/
lemma stepEvents_ofSlot_of_none {k : Nat}
    (hk : (Node.descendantsOf job.node.children)[k]? = none) (moves : List Move) :
    job.stepEvents (Move.ofSlot k moves) = [] := by
  refine List.filterMap_eq_nil_iff.mpr fun m hm => ?_
  rw [stepEvent?_eq, (Move.mem_ofSlot.mp hm).2, hk]
  rfl

/-- The steps start in the order of the tree if their slots do. -/
lemma filterMap_stepEvent?_range :
    ((List.range (Slot.ofScenario job.node).length).filterMap fun k => job.stepEvent? (.started k)) =
      (Node.descendantsOf job.node.children).mapIdx fun k step =>
        ⟨.stepAt job.group job.place k, step, .started⟩ := by
  simp only [stepEvent?_eq, Move.slot, Move.change]
  rw [Slot.length_ofScenario, ← Node.length_descendantsOf]
  induction Node.descendantsOf job.node.children using List.reverseRecOn with
  | nil => rfl
  | append_singleton steps step ih =>
      rw [List.length_append, List.length_singleton, List.range_succ, List.filterMap_append,
        List.mapIdx_append, ← ih]
      congr 1
      · refine List.filterMap_congr fun k hk => ?_
        rw [List.getElem?_append_left (List.mem_range.mp hk)]
      · simp

/-- What a job tells when the last snapshot has come, as far as a test accepts it. -/
lemma Completes.filter_told {actions : List JobAction} (h : job.Completes options [r] last actions)
    (p : Event → Bool) :
    (toldBy actions).filter p =
      (job.stepEvents (job.movesBy [r, last])).filter p ++
        [job.event (.published last)].filter p ++
        (job.stepEvents (job.closingBy [r, last] none)).filter p ++
        [job.event (.finished ⟨last.verdict, last.failureSummary?⟩)].filter p := by
  rw [h.told, List.filter_append, List.filter_append, List.filter_append]
  rfl

/-- **A stream of two snapshots makes a rehearsal** if all steps go on in the first one and have
succeeded in the second one, and the scenario passes. -/
theorem rehearsal_of_uniform (job : Job) (options : RunOptions) (hlasts : Stream.Lasts opened [r] last)
    (hr : r.Uniform job.node .running) (hlast : last.Uniform job.node .success)
    (hverdict : last.verdict = .success) :
    Rehearsal job.group job.place job.node
      (job.event .started :: toldBy (job.actions options opened)) := by
  have htold := (job.completes_actions options hlasts).filter_told
  have hmoves : job.movesBy [r, last] ++ job.closingBy [r, last] none =
      Tracker.movesOver job.node [r, last] none := rfl
  have hresult : (⟨last.verdict, last.failureSummary?⟩ : NodeResult) = .success := by
    rw [ExecutionReport.failureSummary?, hverdict, if_pos rfl]
    rfl
  rw [hresult] at htold
  refine ⟨⟨last, ?_⟩, fun k => ?_, ?_⟩
  · have hnone : ∀ moves, (job.stepEvents moves).filter (fun e =>
        e.subject == .scenarioAt job.group job.place) = [] := by
      intro moves
      refine List.filter_eq_nil_iff.mpr fun e he hsubject => ?_
      obtain ⟨slot, hslot⟩ := isStep_of_mem_stepEvents he
      rw [hslot] at hsubject
      exact absurd (beq_iff_eq.mp hsubject) Subject.noConfusion
    rw [List.filter_cons, htold, hnone, hnone]
    simp [event, subject]
  · have hsteps : (job.event .started :: toldBy (job.actions options opened)).filter
        (fun e => e.subject == .stepAt job.group job.place k) =
          job.stepEvents (Move.ofSlot k (Tracker.movesOver job.node [r, last] none)) := by
      rw [List.filter_cons, htold, filter_stepEvents, filter_stepEvents, ← hmoves,
        Move.ofSlot_append, stepEvents_append]
      simp [event, subject]
    rw [hsteps]
    cases hk : (Node.descendantsOf job.node.children)[k]? with
    | none => exact stepEvents_ofSlot_of_none hk _
    | some step =>
        have hlt : k < (Slot.ofScenario job.node).length := by
          rw [Slot.length_ofScenario, ← Node.length_descendantsOf]
          exact (List.getElem?_eq_some_iff.mp hk).1
        rw [Tracker.ofSlot_movesOver_of_uniform hr hlast hverdict (List.getElem?_eq_getElem hlt)]
        simp [stepEvents, stepEvent?_eq, Move.slot, Move.change, hk]
  · have hwithin : ∀ e ∈ job.event .started :: toldBy (job.actions options opened),
        (e.subject.isWithinScenario job.group job.place && e.isStart) = e.isStart := by
      intro e he
      have hcovers : job.Covers e := by
        rcases List.mem_cons.mp he with rfl | he
        · exact covers_event ..
        · exact (covers_of_mem_toldBy he).1
      rw [hcovers, Bool.true_and]
    have hstarts := Tracker.starts_movesOver_of_shown (fun _ => hr.shows (by decide)) [last] none
    rw [List.filter_congr hwithin, List.filter_cons_of_pos rfl, htold, filter_isStart_stepEvents,
      filter_isStart_stepEvents, ← filterMap_stepEvent?_range, ← hstarts, ← hmoves,
      Move.starts_append, List.filterMap_append]
    simp [event, Event.isStart, subject]

end Job

/-! ## Runs -/

/-- A scenario in which everything has succeeded passes. -/
lemma ExecutionReport.verdict_around_uniformReport (id : ExecutionId) (title environment : String)
    (scenario : Scenario) :
    (around id title environment (scenario.uniformReport .success)).verdict = .success := by
  refine (verdict_eq_success_iff _).mpr ⟨rfl, ?_⟩
  rintro ⟨path, below, hat, hstatus⟩
  rw [Scenario.status_of_at?_uniformReport hat] at hstatus
  exact Status.noConfusion hstatus

/-- **A scenario without a script** has a stream of two snapshots: all of its steps go on, and then all
have succeeded. -/
theorem ScriptBook.lasts_of_gives {book : ScriptBook} {scenario : Scenario}
    {environment : Environment} {opened : Except Error (ExecutionId × List Item)}
    (hscript : book.script? scenario.title = none)
    (h : (book.answer scenario environment).Gives opened) :
    ∃ id, Stream.Lasts opened
      [.around id scenario.title environment.name (scenario.uniformReport .running)]
      (.around id scenario.title environment.name (scenario.uniformReport .success)) := by
  have hanswer : book.answer scenario environment =
      (Pending.mk 0 scenario.title environment.name
        [.report (scenario.uniformReport .running), .report (scenario.uniformReport .success)]).answer := by
    rw [answer, submitError?, itemsFor, hscript]
    rfl
  rw [hanswer, Pending.answer] at h
  cases h with
  | stream _ id => exact ⟨id, id, rfl⟩

namespace Run

/-- **What a run tells of a scenario** on a backend with fixed answers: its start, and what its job does
with what the answer gives. -/
theorem Completes.exists_gives {σ : Type} {b : Backend σ} {answer : Scenario → Environment → Answer}
    {h : b.Steady answer} {options : RunOptions} {request : RunRequest} {s : σ} {r : Run σ}
    {i j : Nat} {node child : Node} {source : ScenarioSource} {environment : Environment}
    (hcompletes : Completes b options request s r)
    (hready : h.ready (request.tasks h.findings) s)
    (hchild : request.root.children[i]? = some node)
    (hskip : request.skip.contains node.id = false) (hat : node.children[j]? = some child)
    (hsource : child.scenario? = some source) (hskipped : request.skip.contains child.id = false)
    (henvironment : h.environmentFor source.environment = .ok environment) :
    ∃ opened, (answer source.definition environment).Gives opened ∧
      r.outside.events.filter (fun e => e.subject.isWithinScenario i j) =
        (Job.mk i j child source environment).event .started ::
          Job.toldBy ((Job.mk i j child source environment).actions options opened) := by
  obtain ⟨k, hP⟩ := RunRequest.exists_plan h.findings hchild hskip
  obtain ⟨_, _, -, -, hcomplete, -⟩ := hcompletes.exists_complete hready hP
  have hcandidate : ClassPlan.candidateAt? node j = some ⟨j, child, source⟩ := by
    simp [ClassPlan.candidateAt?, hat, hsource]
  have hjob : Job.mk i j child source environment ∈
      (ClassPlan.ofNode (h.findings i) request.skip.contains i node).jobs :=
    ClassPlan.jobs_iff.mpr ⟨⟨j, child, source⟩, environment, hcandidate, hskipped, henvironment, rfl⟩
  obtain ⟨opened, hgives, htold⟩ := (hcomplete.job hjob).of_done
  exact ⟨opened, hgives, (filter_logOf ..).symm.trans htold⟩

/-- **A scenario without a script is rehearsed** by every run of a tree on a backend that replays
scripts, whatever steps it has and whether they are nodes or not: it starts, each of its steps starts
and finishes with success, in the order of the tree, and it finishes with success.  And there is such a
run: what is carried out comes to its end. -/
theorem rehearsal_of_completes {book : ScriptBook} {request : RunRequest} {s : ScriptState}
    {i j : Nat} {node : Node} {parent : NodeId} {segment : String} {source : ScenarioSource}
    {stepAsTest : Bool} {environment : Environment} (options : RunOptions)
    (hlimit : max options.concurrency 1 ≤ ClassScope.limit)
    (hready : ScriptBook.Ready (request.tasks book.findings) s)
    (hchild : request.root.children[i]? = some node)
    (hskip : request.skip.contains node.id = false)
    (hat : node.children[j]? = some (.ofScenario parent segment source stepAsTest))
    (hskipped : request.skip.contains (Node.ofScenario parent segment source stepAsTest).id = false)
    (hscript : book.script? source.definition.title = none)
    (henvironment : book.environmentFor source.environment = .ok environment) :
    Completes book.backend options request s (execute book.backend options .quiet request s) ∧
      ∀ {r : Run ScriptState}, Completes book.backend options request s r →
        Rehearsal i j (.ofScenario parent segment source stepAsTest) r.outside.events := by
  refine ⟨completes_execute book.backend options request s hlimit, fun {r} hcompletes => ?_⟩
  have hsource : (Node.ofScenario parent segment source stepAsTest).scenario? = some source := by
    rw [Node.ofScenario]
    split <;> rfl
  rw [← ScriptBook.findings_steady] at hready
  rw [← ScriptBook.steady_environmentFor] at henvironment
  obtain ⟨opened, hgives, htold⟩ := hcompletes.exists_gives (h := book.steady) hready hchild hskip hat
    hsource hskipped henvironment
  obtain ⟨id, hlasts⟩ := ScriptBook.lasts_of_gives hscript hgives
  have hrehearsal := Job.rehearsal_of_uniform
    ⟨i, j, .ofScenario parent segment source stepAsTest, source, environment⟩ options hlasts
    (ExecutionReport.uniform_uniformReport rfl) (ExecutionReport.uniform_uniformReport rfl)
    (ExecutionReport.verdict_around_uniformReport ..)
  rw [← htold] at hrehearsal
  exact hrehearsal.of_filter

/-- A scenario with a step that is tried again and has a step below it, a group, and an empty group. -/
def shapes : Scenario where
  title := "shapes"
  id := none
  tags := []
  defaultDataset := none
  givens :=
    [⟨"retried", some (.ofAction "debug"), some (.retry "10 s" "1 s"),
      [.action "below" (.ofAction "debug")]⟩]
  action := .group "outer" [.action "inner" (.ofAction "debug")]
  thens := [.group "empty" []]

/-- The node for it. -/
def shapesNode (segment : String) (stepAsTest : Bool) : Node :=
  .ofScenario ((NodeId.engine NodeId.engineName).append "class" "a.A") segment
    ⟨shapes, "a.A", segment, none⟩ stepAsTest

/-- A class that has the scenario twice, once with its steps as nodes. -/
def bothModes : RunRequest where
  root :=
    .engine
      [.ofClass (NodeId.engine NodeId.engineName) "a.A" [shapesNode "p" true, shapesNode "q" false]]
  skip := []

/-- What is carried out rehearses both. -/
theorem rehearsal_of_completes_bothModes :
    ∃ r, Completes oneEnvironment.backend {} bothModes .initial r ∧
      (Node.descendantsOf (shapesNode "p" true).children).map Node.name =
        ["retried", "below", "outer", "inner", "empty"] ∧
      Rehearsal 0 0 (shapesNode "p" true) r.outside.events ∧
      Rehearsal 0 1 (shapesNode "q" false) r.outside.events := by
  have hready : ScriptBook.Ready (bothModes.tasks oneEnvironment.findings) .initial :=
    ⟨by decide +kernel, by simp [ScriptState.initial]⟩
  have henvironment : oneEnvironment.environmentFor none = .ok (.named "local") := rfl
  obtain ⟨hcompletes, hstepwise⟩ := rehearsal_of_completes {} (i := 0) (j := 0)
    (by decide) hready rfl rfl rfl rfl rfl henvironment
  obtain ⟨-, hwhole⟩ := rehearsal_of_completes {} (i := 0) (j := 1)
    (by decide) hready rfl rfl rfl rfl rfl henvironment
  exact ⟨_, hcompletes, by decide, hstepwise hcompletes, hwhole hcompletes⟩

end Run

end ScenarioRunner
