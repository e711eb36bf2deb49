import ScenarioRunner.Backend.Scripted
import ScenarioRunner.Proofs.Engine.ClassEvents
import ScenarioRunner.Proofs.Engine.Completion

/-!
# The life of classes and scenarios

What a run has told at its end, node by node.

* `RunRequest.Told` says it of the events of a run: the engine, each class and each scenario that is
  not skipped starts once and is finished once, with everything below it in between, and a node that
  is skipped is skipped once, with nothing below it.
* `Run.Follows.told_of_stuck`: that is what has been told when no task can go on.
* `Run.told_of_reaches`: every run in which no task is cut off comes to that end, whichever way its
  tasks are scheduled and whatever the backend does.
-/

namespace ScenarioRunner

/-- What is told of a tree at the end of a run. -/
structure RunRequest.Told (request : RunRequest) (events : List Event) : Prop where
  /-- The engine starts and is finished once, and its end comes last. -/
  engine : ∃ result,
    events.filter (fun e => e.subject == .engine) =
      [⟨.engine, request.root, .started⟩, ⟨.engine, request.root, .finished result⟩] ∧
    events.getLast? = some ⟨.engine, request.root, .finished result⟩
  /-- A class that is skipped is told of once, and nothing below it. -/
  skippedClass : ∀ {i : Nat} {node : Node}, request.root.children[i]? = some node →
    request.skip.contains node.id = true →
    events.filter (fun e => e.subject.isWithinClass i) =
      [⟨.classAt i, node, .skipped skipReason⟩]
  /-- Another class starts before and is finished after everything below it. -/
  runningClass : ∀ {i : Nat} {node : Node}, request.root.children[i]? = some node →
    request.skip.contains node.id = false →
    ∃ between result,
      events.filter (fun e => e.subject.isWithinClass i) =
        ⟨.classAt i, node, .started⟩ :: between ++ [⟨.classAt i, node, .finished result⟩] ∧
      ∀ e ∈ between, e.subject ≠ .classAt i
  /-- A scenario that is skipped is told of once, and nothing below it. -/
  skippedScenario : ∀ {i j : Nat} {node child : Node}, request.root.children[i]? = some node →
    request.skip.contains node.id = false → node.children[j]? = some child →
    child.isScenario = true → request.skip.contains child.id = true →
    events.filter (fun e => e.subject.isWithinScenario i j) =
      [⟨.scenarioAt i j, child, .skipped skipReason⟩]
  /-- Another scenario starts before and is finished after the events of its steps and its final
  report. -/
  runningScenario : ∀ {i j : Nat} {node child : Node}, request.root.children[i]? = some node →
    request.skip.contains node.id = false → node.children[j]? = some child →
    child.isScenario = true → request.skip.contains child.id = false →
    ∃ between result,
      events.filter (fun e => e.subject.isWithinScenario i j) =
        ⟨.scenarioAt i j, child, .started⟩ :: between ++
          [⟨.scenarioAt i j, child, .finished result⟩] ∧
      ∀ e ∈ between, (∃ slot, e.subject = .stepAt i j slot) ∨
        ∃ report, e = ⟨.scenarioAt i j, child, .published report⟩
  /-- Nothing is told of other children of classes. -/
  otherChild : ∀ {i j : Nat} {node child : Node}, request.root.children[i]? = some node →
    request.skip.contains node.id = false → node.children[j]? = some child →
    child.isScenario = false →
    events.filter (fun e => e.subject.isWithinScenario i j) = []

namespace Run

variable {σ : Type} {b : Backend σ} {options : RunOptions} {request : RunRequest} {findings : Findings}
  {r : Run σ}

lemma isWithinClass_of_isWithinScenario {s : Subject} {i j : Nat}
    (h : s.isWithinScenario i j = true) : s.isWithinClass i = true := by
  unfold Subject.isWithinScenario at h
  unfold Subject.isWithinClass
  cases s <;> simp_all

/-- The events of a scenario are among those of its class. -/
lemma filter_logOf (r : Run σ) (i j : Nat) :
    (r.logOf i).filter (fun e => e.subject.isWithinScenario i j) =
      r.outside.events.filter fun e => e.subject.isWithinScenario i j := by
  rw [logOf, List.filter_filter]
  refine List.filter_congr fun e _ => ?_
  cases hwithin : e.subject.isWithinScenario i j with
  | false => rfl
  | true => rw [isWithinClass_of_isWithinScenario hwithin]; rfl

/-- A class that is finished starts before and is finished after everything below it. -/
lemma exists_between {stage : Job → Phase → List Event → Prop} {P : ClassPlan}
    {verdict : Verdict} {log : List Event} (h : P.Complete stage verdict log) :
    ∃ between,
      log = P.event .started :: between ++ [P.event (.finished (.ofVerdict verdict))] ∧
      ∀ e ∈ between, e.subject ≠ .classAt P.place := by
  cases h with
  | @intro tail hcovered htold =>
      rw [ClassPlan.toldBy_prelude]
      refine ⟨_, by rw [List.cons_append, List.cons_append], ?_⟩
      intro e he
      rcases List.mem_append.mp he with he | he
      · rcases List.mem_append.mp he with he | he
        · obtain ⟨c, -, rfl⟩ := List.mem_map.mp he
          simp [Candidate.event]
        · obtain ⟨f, -, hf⟩ := List.mem_flatMap.mp he
          simp only [List.mem_cons, List.not_mem_nil, or_false] at hf
          rcases hf with rfl | rfl <;> simp [Candidate.event]
      · obtain ⟨job, -, hcovers⟩ := hcovered e he
        intro hclass
        simp [Job.Covers, hclass, Subject.isWithinScenario] at hcovers

namespace Follows

/-- The engine tells its own start and end, and the skips. -/
lemma told_engine {result : NodeResult}
    (htold : r.enginesLog request =
      RunRequest.toldBy (request.prelude options) ++ [request.event (.finished result)]) :
    r.outside.events.filter (fun e => e.subject == .engine) =
      [request.event .started, request.event (.finished result)] := by
  have hengine := filter_enginesLog request r
    (p := fun e => e.subject == .engine) fun e hsubject => by
      rw [isEngines, List.all_eq_true]
      intro P _
      rw [beq_iff_eq.mp hsubject]
      rfl
  have hskips : ∀ classes : List (Node × Nat),
      (classes.map RunRequest.skippedEvent).filter (fun e => e.subject == .engine) = [] := by
    intro classes
    rw [List.filter_eq_nil_iff]
    intro e he
    obtain ⟨c, -, rfl⟩ := List.mem_map.mp he
    simp [RunRequest.skippedEvent]
  rw [← hengine, htold, RunRequest.toldBy_prelude, List.filter_append, List.filter_cons_of_pos rfl,
    hskips]
  rfl

/-- Of a class that is skipped the engine tells only that. -/
lemma told_skippedClass {result : NodeResult}
    (htold : r.enginesLog request =
      RunRequest.toldBy (request.prelude options) ++ [request.event (.finished result)])
    {i : Nat} {node : Node} (hchild : request.root.children[i]? = some node)
    (hskip : request.skip.contains node.id = true) :
    r.outside.events.filter (fun e => e.subject.isWithinClass i) =
      [⟨.classAt i, node, .skipped skipReason⟩] := by
  have hengine := filter_enginesLog request r
    (p := fun e => e.subject.isWithinClass i) fun e hwithin => by
      rw [isEngines, List.all_eq_true]
      rintro ⟨node', i'⟩ hP
      obtain ⟨hchild', hskip'⟩ := RunRequest.mem_placed.mp hP
      rw [Bool.not_eq_true', Bool.eq_false_iff]
      intro hwithin'
      obtain rfl : i = i' := Subject.eq_of_isWithinClass hwithin hwithin'
      obtain rfl := Option.some.inj (hchild.symm.trans hchild')
      rw [hskip] at hskip'
      exact absurd hskip' (by simp)
  obtain ⟨k, hk⟩ := List.getElem?_of_mem
    (RunRequest.mem_placed (c := (node, i)).mpr ⟨hchild, hskip⟩)
  have hskips : ((request.placed true).flatMap fun c => [RunRequest.skippedEvent c]).filter
      (fun e => e.subject.isWithinClass i) = [RunRequest.skippedEvent (node, i)] := by
    refine filter_flatMap_of_getElem? hk ?_ ?_
    · intro e he
      rw [List.mem_singleton.mp he]
      exact beq_self_eq_true i
    · intro l c hl hne e he
      rw [List.mem_singleton.mp he]
      refine beq_false_of_ne fun hplace => ?_
      exact hne (eq_of_pairwise_lt (RunRequest.pairwise_placed true) hl hk hplace)
  rw [← hengine, htold, RunRequest.toldBy_prelude, List.filter_append,
    List.filter_cons_of_neg Bool.false_ne_true, List.map_eq_flatMap, hskips]
  rfl

/-- **What has been told when no task can go on.** -/
theorem told_of_stuck (h : r.Follows findings options request) (hstuck : r.Stuck b options)
    (hlimit : max options.concurrency 1 ≤ ClassScope.limit) : request.Told r.outside.events := by
  obtain ⟨⟨htold, front, hlast⟩, hclasses⟩ :=
    h.done_of_stuck (fun hclass => ⟨_, hclass⟩) hstuck hlimit
  have hcomplete : ∀ {i : Nat} {node : Node}, request.root.children[i]? = some node →
      request.skip.contains node.id = false →
      ∃ verdict, (ClassPlan.ofNode (findings i) request.skip.contains i node).Complete
        (Job.Stage options) verdict (r.logOf i) := by
    intro i node hchild hskip
    obtain ⟨k, hk⟩ := RunRequest.exists_plan findings hchild hskip
    obtain ⟨c, hc, hfollows⟩ := h.classes hk
    obtain ⟨⟨verdict, hphase⟩, hdone⟩ := hclasses k c hc
    exact ⟨verdict, hfollows.complete hphase hdone⟩
  refine ⟨⟨.ofVerdict r.verdict, told_engine htold, by rw [hlast]; exact List.getLast?_concat⟩,
    fun hchild hskip => told_skippedClass htold hchild hskip, ?_, ?_, ?_, ?_⟩
  · intro i node hchild hskip
    obtain ⟨verdict, hclass⟩ := hcomplete hchild hskip
    obtain ⟨between, hbetween⟩ := exists_between hclass
    exact ⟨between, _, hbetween⟩
  · intro i j node child hchild hskip hat hscenario hskipped
    obtain ⟨source, hsource⟩ := Option.isSome_iff_exists.mp hscenario
    have hcandidate : ClassPlan.candidateAt? node j = some ⟨j, child, source⟩ := by
      simp [ClassPlan.candidateAt?, hat, hsource]
    have hmem : (⟨j, child, source⟩ : Candidate) ∈
        (ClassPlan.ofNode (findings i) request.skip.contains i node).skipped :=
      ClassPlan.skipped_iff.mpr ⟨hcandidate, hskipped⟩
    obtain ⟨verdict, hclass⟩ := hcomplete hchild hskip
    rw [← filter_logOf]
    exact hclass.skipped hmem
  · intro i j node child hchild hskip hat hscenario hskipped
    obtain ⟨source, hsource⟩ := Option.isSome_iff_exists.mp hscenario
    have hcandidate : ClassPlan.candidateAt? node j = some ⟨j, child, source⟩ := by
      simp [ClassPlan.candidateAt?, hat, hsource]
    obtain ⟨verdict, hclass⟩ := hcomplete hchild hskip
    rw [← filter_logOf]
    cases henvironment : findings i ⟨j, child, source⟩ with
    | error e =>
        refine ⟨[], .failure e.message, ?_, by simp⟩
        exact hclass.failed (ClassPlan.failed_iff.mpr ⟨hcandidate, hskipped, henvironment⟩)
    | ok environment =>
        obtain ⟨opened, -, hopened⟩ := (hclass.job
          (ClassPlan.jobs_iff.mpr ⟨_, environment, hcandidate, hskipped, henvironment, rfl⟩)).of_done
        rw [Job.toldBy_actions] at hopened
        exact ⟨_, _, hopened, fun e he => Job.isInner_of_mem_innerEvents he⟩
  · intro i j node child hchild hskip hat hscenario
    obtain ⟨verdict, hclass⟩ := hcomplete hchild hskip
    rw [← filter_logOf]
    refine hclass.eq_nil ?_
    have hnone : child.scenario? = none := by simpa [Node.isScenario] using hscenario
    simp [ClassPlan.candidateAt?, hat, hnone]

end Follows

/-- **Every run tells the whole life of every node.**  If gates of its capacity can be made and no
task is cut off, then no order of steps goes on for ever, each can be completed, and at its end the
engine, each class and each scenario that is not skipped has started once and was finished once,
with everything below it in between, while of the others only the skip was told. -/
theorem told_of_reaches (b : Backend σ) (options : RunOptions) (request : RunRequest) (s : σ)
    (hlimit : max options.concurrency 1 ≤ ClassScope.limit) :
    (∀ f : Nat → Run σ, f 0 = ofRequest options request s →
      ¬ ∀ n, ∃ actor, (f n).advance? b options actor = some (f (n + 1))) ∧
    ∀ choices r, Reaches b options (ofRequest options request s) choices r → Quiet choices →
      (∃ choices' r', Reaches b options r choices' r' ∧ Quiet choices' ∧ r'.Stuck b options) ∧
      (r.Stuck b options → request.Told r.outside.events) := by
  refine ⟨fun f _ => not_endless b options f, fun choices r hreaches hquiet => ?_⟩
  refine ⟨exists_stuck b options r, fun hstuck => ?_⟩
  obtain ⟨findings, hproceeds, hplanned⟩ := hreaches.exists_proceeds hquiet
  have hfollows := follows_of_proceeds hproceeds
  exact hfollows.told_of_stuck (hplanned hstuck) hlimit

/-- A scenario in a class, whose steps are no nodes. -/
def plain (title : String) (environment : Option String) : Node :=
  .ofScenario ((NodeId.engine NodeId.engineName).append "class" "a.A") title
    ⟨.ofStep title default, "a.A", "p", environment⟩ false

/-- Two classes, one of which is skipped.  In the other one a scenario runs, one asks for an
environment that there is not, and one is skipped. -/
def twoClasses : RunRequest where
  root :=
    .engine
      [.ofClass (NodeId.engine NodeId.engineName) "a.A"
          [plain "runs" none, plain "fails" (some "nowhere"), plain "skipped" none],
        .ofClass (NodeId.engine NodeId.engineName) "b.B" [plain "below" none]]
  skip := [(plain "skipped" none).id, (NodeId.engine NodeId.engineName).append "class" "b.B"]

/-- There is one environment, and every scenario that runs ends with success. -/
def oneEnvironment : ScriptBook :=
  ⟨[.named "local"], []⟩

/-- Some run of the two classes comes to its end, and tells the whole life of every node. -/
theorem told_of_reaches_twoClasses :
    max (1 : Nat) 1 ≤ ClassScope.limit ∧
      ∃ choices r,
        Reaches oneEnvironment.backend {} (ofRequest {} twoClasses .initial) choices r ∧
        Quiet choices ∧ r.Stuck oneEnvironment.backend {} ∧ twoClasses.Told r.outside.events := by
  have hlimit : max (1 : Nat) 1 ≤ ClassScope.limit := by decide
  obtain ⟨choices, r, hreaches, hquiet, hstuck⟩ :=
    exists_stuck oneEnvironment.backend {} (ofRequest {} twoClasses .initial)
  have htold :=
    told_of_reaches oneEnvironment.backend {} twoClasses .initial hlimit
  exact ⟨hlimit, choices, r, hreaches, hquiet, hstuck, (htold.2 choices r hreaches hquiet).2 hstuck⟩

end Run

end ScenarioRunner
