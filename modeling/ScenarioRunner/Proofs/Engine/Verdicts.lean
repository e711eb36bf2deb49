import ScenarioRunner.Proofs.Engine.InFlight

/-!
# The verdict of a class

A class fails exactly if one of its scenarios does.

* `ClassPlan.TaskStep.worst_failure` and `ClassRun.ScenarioTurn.worst_failure`: a class that fails goes
  on failing.
* `Job.Fails`: a scenario fails by what the backend answers, and `Job.Settled` says that the answers
  leave no choice.
* `ClassPlan.Judged` is the invariant: the worst verdict so far is a failure exactly if a failure to
  find an environment has been recorded, or a scenario that fails has left.
* `ClassPlan.Judged.of_done` is what comes of it at the end.
-/

namespace ScenarioRunner

/-! ## The worst verdict -/

lemma Verdict.worst?_failure (w : Option Verdict) : worst? w (some .failure) = some .failure := by
  cases w with
  | none => rfl
  | some v => cases v <;> rfl

namespace ClassScope

variable {scope scope' : ClassScope}

lemma worst_record (h : scope.worst = some .failure) (verdict : Verdict) :
    (scope.record verdict).worst = some .failure := by
  rw [record, h]
  rfl

lemma worst_of_acquire? (h : scope.acquire? = some scope') : scope'.worst = scope.worst := by
  rw [(acquire?_eq_some_iff.mp h).2]

lemma worst_enter (scope : ClassScope) (id : NodeId) : (scope.enter id).worst = scope.worst := by
  unfold enter
  split <;> rfl

lemma verdict_congr (h : scope'.worst = scope.worst) : scope'.verdict = scope.verdict := by
  rw [verdict, h, verdict]

/-- Recording a verdict makes a scope fail if the verdict does. -/
lemma verdict_record (scope : ClassScope) (verdict : Verdict) :
    (scope.record verdict).verdict = .failure ↔ scope.verdict = .failure ∨ verdict = .failure := by
  unfold ClassScope.verdict record
  cases scope.worst with
  | none => cases verdict <;> simp [Verdict.worst?]
  | some v => cases v <;> cases verdict <;> simp [Verdict.worst?, Verdict.worse]

end ClassScope

/-- A class that fails goes on failing. -/
lemma ClassPlan.TaskStep.worst_failure {σ : Type} {P : ClassPlan} {c c' : ClassRun}
    {o o' : Outside σ} {reached reached' : Reached} (hstep : P.TaskStep c o reached c' o' reached')
    (h : c.scope.worst = some .failure) : c'.scope.worst = some .failure := by
  cases hstep with
  | @prepared _ _ action _ _ _ =>
      cases action with
      | record verdict => exact ClassScope.worst_record h verdict
      | _ => exact h
  | granted _ _ hacquire => exact (ClassScope.worst_of_acquire? hacquire).trans h
  | entered => exact (ClassScope.worst_enter ..).trans h
  | _ => exact h

/-- A class that fails goes on failing when a scenario has a turn. -/
lemma ClassRun.ScenarioTurn.worst_failure {σ : Type} {b : Backend σ} {options : RunOptions}
    {job : Job} {phase phase' : Phase} {scope scope' : ClassScope} {o o' : Outside σ}
    (hturn : ScenarioTurn b options job phase scope o phase' scope' o')
    (h : scope.worst = some .failure) : scope'.worst = some .failure := by
  cases hturn with
  | cut => exact h
  | step hstep =>
      cases hstep with
      | @acted _ _ action rest =>
          cases action with
          | leave verdict => exact ClassScope.worst_record h verdict
          | _ => exact h
      | rescued => exact ClassScope.worst_record h .failure
      | _ => exact h

/-! ## Scenarios that fail -/

namespace Job

variable {job : Job} {options : RunOptions} {opened : Except Error (ExecutionId × List Item)}
  {answers : Job → Except Error (ExecutionId × List Item) → Prop}

/-- The scenario fails by an answer of the backend. -/
def Fails (answers : Job → Except Error (ExecutionId × List Item) → Prop) (job : Job) : Prop :=
  ∃ opened, answers job opened ∧ (job.followed opened).result.verdict = .failure

/-- The answers to a scenario lead to one verdict. -/
def Settled (answers : Job → Except Error (ExecutionId × List Item) → Prop) : Prop :=
  ∀ job opened opened', answers job opened → answers job opened' →
    (job.followed opened).result.verdict = (job.followed opened').result.verdict

lemma fails_iff (hsettled : Settled answers) (hanswer : answers job opened) :
    job.Fails answers ↔ (job.followed opened).result.verdict = .failure := by
  constructor
  · rintro ⟨opened', hanswer', hfails⟩
    rw [hsettled job opened opened' hanswer hanswer', hfails]
  · exact fun hfails => ⟨opened, hanswer, hfails⟩

/-- A job leaves with the verdict of its result. -/
lemma verdict_of_leave {verdict : Verdict}
    (h : .leave verdict ∈ job.actions options opened) :
    verdict = (job.followed opened).result.verdict := by
  rw [actions_eq, List.mem_append] at h
  rcases h with h | h
  · exact absurd rfl (List.countP_eq_zero.mp (countP_work job options (job.followed opened)) _ h)
  · simpa using h

end Job

namespace Phase

/-- The scenario has left the scope of its class. -/
def hasLeft (phase : Phase) : Bool :=
  phase.isLaunched && !phase.isInFlight

lemma hasLeft_grant (phase : Phase) : phase.grant.hasLeft = phase.hasLeft := by
  cases phase <;> rfl

lemma hasLeft_start (phase : Phase) : phase.start.hasLeft = phase.hasLeft := by
  cases phase <;> rfl

end Phase

/-- The action records a verdict. -/
def ClassAction.isRecord : ClassAction → Bool
  | .record _ => true
  | _ => false

namespace ClassRun

variable {σ : Type} {b : Backend σ} {options : RunOptions} {job : Job} {phase phase' : Phase}
  {scope scope' : ClassScope} {o o' : Outside σ} {events : List Event}
  {answers : Job → Except Error (ExecutionId × List Item) → Prop}

/-- The number of verdicts that the task of the class itself has to record. -/
def unrecorded (c : ClassRun) : Nat :=
  match c.phase with
  | .waiting => c.program.countP ClassAction.isRecord
  | .running actions => actions.countP ClassAction.isRecord
  | _ => 0

/-- Some scenario that fails has left. -/
def HasFailed (answers : Job → Except Error (ExecutionId × List Item) → Prop) (c : ClassRun) :
    Prop :=
  ∃ (l : Nat) (s : ScenarioRun), c.scenarios[l]? = some s ∧ s.phase.hasLeft = true ∧
    s.job.Fails answers

/-- Some scenario that fails has left, and not the one at a place. -/
def HasFailedBeside (answers : Job → Except Error (ExecutionId × List Item) → Prop) (c : ClassRun)
    (l : Nat) : Prop :=
  ∃ (k : Nat) (s : ScenarioRun), k ≠ l ∧ c.scenarios[k]? = some s ∧ s.phase.hasLeft = true ∧
    s.job.Fails answers

lemma hasFailed_iff {c : ClassRun} {l : Nat} (hl : c.scenarios[l]? = some ⟨job, phase⟩) :
    c.HasFailed answers ↔
      (phase.hasLeft = true ∧ job.Fails answers) ∨ c.HasFailedBeside answers l := by
  constructor
  · rintro ⟨k, s, hk, hleft, hfails⟩
    by_cases hkl : k = l
    · subst hkl
      obtain rfl := Option.some.inj (hl.symm.trans hk)
      exact Or.inl ⟨hleft, hfails⟩
    · exact Or.inr ⟨k, s, hkl, hk, hleft, hfails⟩
  · rintro (⟨hleft, hfails⟩ | ⟨k, s, -, hk, hleft, hfails⟩)
    · exact ⟨l, _, hl, hleft, hfails⟩
    · exact ⟨k, s, hk, hleft, hfails⟩

/-- What a step of a scenario does to the verdict: nothing, or the scenario leaves with its own. -/
inductive Judges (answers : Job → Except Error (ExecutionId × List Item) → Prop) (job : Job)
    (phase : Phase) (scope : ClassScope) (phase' : Phase) (scope' : ClassScope) : Prop where
  | kept (hworst : scope'.worst = scope.worst) (hleft : phase'.hasLeft = phase.hasLeft)
  | left (hfails : scope'.verdict = .failure ↔ scope.verdict = .failure ∨ job.Fails answers)
    (hleft : phase.hasLeft = false) (hleft' : phase'.hasLeft = true)

lemma ScenarioStep.judges (hsettled : Job.Settled answers)
    (hstep : ScenarioStep b options job phase scope o phase' scope' o')
    (hstage : job.StageBy answers options phase events) :
    Judges answers job phase scope phase' scope' := by
  cases hstep with
  | submitted => exact .kept rfl rfl
  | refused => exact .kept rfl (by simp [Phase.hasLeft, Phase.isInFlight, Job.any_actions])
  | opened => exact .kept rfl (by simp [Phase.hasLeft, Phase.isInFlight, Job.any_actions])
  | unopened => exact .kept rfl (by simp [Phase.hasLeft, Phase.isInFlight, Job.any_actions])
  | @acted _ _ action rest =>
      cases action with
      | emit e => exact .kept rfl rfl
      | write report => exact .kept rfl rfl
      | leave verdict =>
          cases hstage with
          | @acting opened done _ hactions hanswer =>
              have hmem : .leave verdict ∈ job.actions options opened := by
                rw [hactions]
                simp
              refine .left ?_ rfl ?_
              · rw [Job.fails_iff hsettled hanswer, ← Job.verdict_of_leave hmem]
                exact ClassScope.verdict_record ..
              · simp [Phase.hasLeft, Phase.isLaunched, Phase.isInFlight, Job.any_of_leave hactions]
          | complete _ hphase => simp at hphase
  | ended => exact .kept rfl rfl
  | rescued =>
      cases hstage with
      | complete _ hphase => simp at hphase
  | told =>
      cases hstage with
      | complete _ hphase => simp at hphase
  | released => exact .kept rfl rfl
  | counted => exact .kept rfl rfl

end ClassRun

/-! ## Classes that fail -/

namespace ClassPlan

variable {σ : Type} {P : ClassPlan} {c c' : ClassRun} {o o' : Outside σ}
  {reached reached' : Reached} {answers : Job → Except Error (ExecutionId × List Item) → Prop}

/-- The class fails: the environment of one of its scenarios is not found, or one fails. -/
def Fails (answers : Job → Except Error (ExecutionId × List Item) → Prop) (P : ClassPlan) : Prop :=
  P.failed ≠ [] ∨ ∃ job ∈ P.jobs, job.Fails answers

/-- **The worst verdict so far** is a failure exactly if a failure to find an environment has been
recorded, or a scenario that fails has left. -/
def Judged (answers : Job → Except Error (ExecutionId × List Item) → Prop) (P : ClassPlan)
    (c : ClassRun) : Prop :=
  c.phase ≠ .crashed →
    (c.scope.verdict = .failure ↔ c.unrecorded < P.failed.length ∨ c.HasFailed answers)

lemma record_of_mem_prelude {verdict : Verdict} (h : .record verdict ∈ P.prelude) :
    verdict = .failure := by
  simp only [prelude, ClassRun.failActions, List.mem_append, List.mem_map, List.mem_flatMap,
    List.mem_cons, List.not_mem_nil, or_false] at h
  rcases h with ((h | ⟨c, -, h⟩) | h) | ⟨f, -, h | h | h | h⟩
  all_goals first | exact ClassAction.record.inj h | exact absurd h ClassAction.noConfusion

lemma countP_isRecord_prelude (P : ClassPlan) :
    P.prelude.countP ClassAction.isRecord = P.failed.length :=
  countP_prelude_of P (fun _ => rfl) rfl fun _ _ => rfl

lemma countP_isRecord_ending (P : ClassPlan) (k : Nat) :
    (P.ending k).countP ClassAction.isRecord = 0 :=
  countP_ending_of P k fun action haction => by
    cases action <;> simp_all [ClassAction.isRecord]

/-- A class that has not started has recorded nothing. -/
lemma judged_planned (found : Candidate → Except Error Environment) (options : RunOptions)
    (isSkipped : NodeId → Bool) (group : Nat) (node : Node) :
    (ofNode found isSkipped group node).Judged answers
      (planned found options isSkipped group node) := by
  intro _
  have hunrecorded : (planned found options isSkipped group node).unrecorded =
      (ofNode found isSkipped group node).failed.length := by
    show (planned found options isSkipped group node).program.countP _ = _
    rw [planned, List.countP_append, countP_isRecord_prelude, countP_isRecord_ending,
      Nat.add_zero]
  refine iff_of_false Verdict.noConfusion ?_
  rintro (hlt | ⟨l, s, hl, hleft, -⟩)
  · rw [hunrecorded] at hlt
    exact Nat.lt_irrefl _ hlt
  · rw [phase_planned found options isSkipped group node hl] at hleft
    exact Bool.false_ne_true hleft

namespace Judged

/-- A class in which the same scenarios have left, with the same verdict. -/
lemma of_kept (h : P.Judged answers c) (hcrashed : c.phase ≠ .crashed)
    (hworst : c'.scope.worst = c.scope.worst) (hunrecorded : c'.unrecorded = c.unrecorded)
    (hfailed : c'.HasFailed answers ↔ c.HasFailed answers) : P.Judged answers c' := by
  intro _
  rw [ClassScope.verdict_congr hworst, hunrecorded, hfailed]
  exact h hcrashed

lemma begin (h : P.Judged answers c) : P.Judged answers c.begin := by
  unfold ClassRun.begin
  split
  · next hphase =>
    refine h.of_kept (by rw [hphase]; exact ClassPhase.noConfusion) rfl ?_ Iff.rfl
    rw [ClassRun.unrecorded, ClassRun.unrecorded, hphase]
  · exact h

lemma hasFailed_changePhase {k : Nat} {f : Phase → Phase}
    (hf : ∀ phase, (f phase).hasLeft = phase.hasLeft)
    (hscenarios : c'.scenarios = (c.changePhase k f).scenarios) :
    c'.HasFailed answers ↔ c.HasFailed answers := by
  unfold ClassRun.HasFailed
  refine exists_congr fun l => ?_
  rw [hscenarios, ClassRun.getElem?_changePhase]
  cases c.scenarios[l]? with
  | none => simp
  | some s => by_cases hkl : k = l <;> simp [hkl, hf]

/-- **A step of the task of the class.** -/
theorem task (h : P.Judged answers c) (hstep : P.TaskStep c o reached c' o' reached') :
    P.Judged answers c' := by
  cases hstep with
  | @prepared done todo action hplan hphase hgate =>
      have hcrashed : c.phase ≠ .crashed := by
        rw [hphase]
        exact ClassPhase.noConfusion
      have hcount := countP_isRecord_prelude P
      rw [hplan, List.countP_append, List.countP_cons] at hcount
      have hbefore : c.unrecorded =
          todo.countP ClassAction.isRecord + if action.isRecord then 1 else 0 := by
        rw [ClassRun.unrecorded, hphase]
        show (action :: (todo ++ P.ending 0)).countP _ = _
        rw [List.countP_cons, List.countP_append, countP_isRecord_ending, Nat.add_zero]
      have hbehind : (todo ++ P.ending 0).countP ClassAction.isRecord =
          todo.countP ClassAction.isRecord := by
        rw [List.countP_append, countP_isRecord_ending, Nat.add_zero]
      cases action with
      | record verdict =>
          obtain rfl : verdict = .failure := record_of_mem_prelude (by rw [hplan]; simp)
          intro _
          refine iff_of_true ((ClassScope.verdict_record ..).mpr (Or.inr rfl)) (Or.inl ?_)
          show (todo ++ P.ending 0).countP ClassAction.isRecord < P.failed.length
          simp only [ClassAction.isRecord, if_true] at hcount
          omega
      | _ => exact h.of_kept hcrashed rfl (hbehind.trans hbefore.symm) Iff.rfl
  | overloaded => exact fun hcrashed => absurd rfl hcrashed
  | @granted k job scope hjob hphase hacquire =>
      refine h.of_kept (by simp [hphase]) (ClassScope.worst_of_acquire? hacquire) ?_
        (hasFailed_changePhase Phase.hasLeft_grant rfl)
      simp [ClassRun.unrecorded, ClassRun.changePhase, hphase, countP_isRecord_ending,
        ClassAction.isRecord]
  | begun hjob hphase =>
      refine h.of_kept (by simp [hphase]) rfl ?_ Iff.rfl
      simp [ClassRun.unrecorded, hphase, ClassAction.isRecord]
  | entered hjob hphase =>
      refine h.of_kept (by simp [hphase]) (ClassScope.worst_enter ..) ?_ Iff.rfl
      simp [ClassRun.unrecorded, hphase, ClassAction.isRecord]
  | launched hjob hphase =>
      refine h.of_kept (by simp [hphase]) rfl ?_ (hasFailed_changePhase Phase.hasLeft_start rfl)
      simp [ClassRun.unrecorded, ClassRun.changePhase, hphase, ClassAction.isRecord]
  | awaited hphase =>
      refine h.of_kept (by simp [hphase]) rfl ?_ Iff.rfl
      simp [ClassRun.unrecorded, hphase, ClassAction.isRecord]
  | closed hphase =>
      refine h.of_kept (by simp [hphase]) rfl ?_ Iff.rfl
      simp [ClassRun.unrecorded, hphase, ClassAction.isRecord]

/-- **A step of the task of a scenario.** -/
theorem scenario (h : P.Judged answers c) {l : Nat} {job : Job} {phase phase' : Phase}
    {scope' : ClassScope} (hl : c.scenarios[l]? = some ⟨job, phase⟩)
    (hjudges : ClassRun.Judges answers job phase c.scope phase' scope') :
    P.Judged answers ({ c with scope := scope' }.setPhase l phase') := by
  intro hcrashed
  have hl' : ({ c with scope := scope' }.setPhase l phase').scenarios[l]? = some ⟨job, phase'⟩ :=
    ClassRun.getElem?_changePhase_self (c := { c with scope := scope' }) hl _
  have hbeside : ({ c with scope := scope' }.setPhase l phase').HasFailedBeside answers l ↔
      c.HasFailedBeside answers l := by
    refine exists_congr fun k => exists_congr fun s => and_congr_right fun hne => ?_
    rw [ClassRun.setPhase, ClassRun.getElem?_changePhase_ne _ hne]
  have hbefore := h hcrashed
  rw [ClassRun.hasFailed_iff hl] at hbefore
  rw [ClassRun.hasFailed_iff hl', hbeside]
  show scope'.verdict = .failure ↔ c.unrecorded < P.failed.length ∨ _
  cases hjudges with
  | kept hworst hleft => rw [ClassScope.verdict_congr hworst, hleft, hbefore]
  | left hfails hleft hleft' =>
      rw [hfails, hbefore, hleft, hleft']
      simp only [Bool.false_eq_true, false_and, false_or, true_and]
      exact or_assoc.trans (or_congr_right or_comm)

/-- **A class that is finished with all of its scenarios** fails exactly if one of them does. -/
theorem of_done (h : P.Judged answers c) (hlinked : P.Linked c reached) {verdict : Verdict}
    (hphase : c.phase = .finished verdict)
    (hdone : ∀ (l : Nat) (s : ScenarioRun), c.scenarios[l]? = some s → s.phase = .done) :
    c.scope.verdict = .failure ↔ P.Fails answers := by
  have hcrashed : c.phase ≠ .crashed := by
    rw [hphase]
    exact ClassPhase.noConfusion
  rw [h hcrashed, ClassRun.unrecorded, hphase, Fails]
  refine or_congr List.length_pos_iff ?_
  constructor
  · rintro ⟨l, s, hl, -, hfails⟩
    exact ⟨s.job, List.mem_of_getElem? (hlinked.job_eq hl), hfails⟩
  · rintro ⟨job, hjob, hfails⟩
    obtain ⟨l, hl⟩ := List.getElem?_of_mem hjob
    obtain ⟨phase, hs⟩ := hlinked.exists_scenario hl
    obtain rfl : phase = .done := hdone l _ hs
    exact ⟨l, _, hs, rfl, hfails⟩

end Judged

end ClassPlan

end ScenarioRunner
