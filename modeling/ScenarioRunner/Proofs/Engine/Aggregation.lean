import ScenarioRunner.Proofs.Engine.Isolation

/-!
# Verdicts and failures that were told

The verdict of a run against its events: the run fails exactly if it has told that a scenario
failed.

* `Event.failsScenario` picks the events that tell a failure of a scenario.
* `Announced` relates the actions that spoil the verdict of a class to those that tell of it, which
  stand right behind.  `ClassPlan.announced_program` and `Job.announced_actions`: the actions of a
  class and those of a scenario are in this order.
* `ClassRun.Agreed` is the invariant of a class: it fails so far exactly if a failure was told, or
  is told next.  `ClassRun.Agreed.task` and `ClassRun.Agreed.scenario` pass it from step to step.
* `Run.Completes.verdict_eq_failure_iff` is what comes of it at the end of a run.

Nothing is assumed of the backend: what it answers is recorded before it is told.
-/

namespace ScenarioRunner

/-- The event tells that a scenario failed. -/
def Event.failsScenario (e : Event) : Bool :=
  match e.subject, e.change with
  | .scenarioAt _ _, .finished result => decide (result.verdict = .failure)
  | _, _ => false

lemma Job.IsInner.failsScenario {job : Job} {e : Event} (h : job.IsInner e) :
    e.failsScenario = false := by
  rcases h with ⟨slot, hslot⟩ | ⟨report, rfl⟩
  · rw [Event.failsScenario, hslot]
  · rfl

/-! ## Announcements -/

section Announced

variable {α : Type} {announces tells : α → Bool} {xs ys : List α}

/-- Items that announce something stand right before items that tell it, and no item tells something
that was not announced. -/
def Announced (announces tells : α → Bool) : List α → Prop
  | [] => True
  | x :: xs => xs.head?.any tells = announces x ∧ Announced announces tells xs

namespace Announced

lemma head {x : α} (h : Announced announces tells (x :: xs)) :
    xs.head?.any tells = announces x :=
  h.1

lemma of_append (h : Announced announces tells (xs ++ ys)) : Announced announces tells ys := by
  induction xs with
  | nil => exact h
  | cons x xs ih => exact ih h.2

lemma append (hxs : Announced announces tells xs) (hys : Announced announces tells ys)
    (hhead : ys.head?.any tells = false) : Announced announces tells (xs ++ ys) := by
  induction xs with
  | nil => exact hys
  | cons x xs ih =>
      refine ⟨?_, ih hxs.2⟩
      cases xs with
      | nil => exact hhead.trans hxs.1
      | cons y xs => exact hxs.1

/-- Items that neither announce nor tell anything. -/
lemma of_plain (h : ∀ x ∈ xs, announces x = false ∧ tells x = false) :
    Announced announces tells xs := by
  induction xs with
  | nil => trivial
  | cons x xs ih =>
      refine ⟨?_, ih fun y hy => h y (List.mem_cons_of_mem _ hy)⟩
      rw [(h x List.mem_cons_self).1]
      cases xs with
      | nil => rfl
      | cons y xs => exact (h y (by simp)).2

end Announced

end Announced

/-! ## Actions -/

lemma countP_toList (p : Event → Bool) (e? : Option Event) :
    e?.toList.countP p = (e?.any p).toNat := by
  cases e? with
  | none => rfl
  | some e =>
      show [e].countP p = (p e).toNat
      rw [List.countP_singleton]
      cases p e <;> rfl

/-- The action tells that a scenario failed. -/
def ClassAction.tellsFailure (action : ClassAction) : Bool :=
  action.event?.any Event.failsScenario

/-- The action tells that a scenario failed. -/
def JobAction.tellsFailure (action : JobAction) : Bool :=
  action.event?.any Event.failsScenario

/-- The scenario leaves with a failure. -/
def JobAction.leavesFailing : JobAction → Bool
  | .leave verdict => decide (verdict = .failure)
  | _ => false

namespace ClassPlan

lemma plain_ending (P : ClassPlan) (k : Nat) :
    ∀ action ∈ P.ending k, action.isRecord = false ∧ action.tellsFailure = false := by
  intro action haction
  rcases cases_of_mem_ending haction with
    ⟨job, rfl⟩ | ⟨id, rfl⟩ | ⟨l, rfl⟩ | ⟨l, rfl⟩ | rfl | rfl <;> exact ⟨rfl, rfl⟩

lemma head_ending (P : ClassPlan) (k : Nat) :
    (P.ending k).head?.any ClassAction.tellsFailure = false := by
  cases h : (P.ending k).head? with
  | none => rfl
  | some action => exact (P.plain_ending k action (List.mem_of_head? h)).2

/-- **The program of a class** records each failure right before it tells it. -/
theorem announced_program (P : ClassPlan) :
    Announced ClassAction.isRecord ClassAction.tellsFailure (P.prelude ++ P.ending 0) := by
  have hfailed : ∀ failed : List (Candidate × Error),
      Announced ClassAction.isRecord ClassAction.tellsFailure
        (failed.flatMap fun f => ClassRun.failActions P.place f.1 f.2) := by
    intro failed
    induction failed with
    | nil => trivial
    | cons f failed ih =>
        rw [List.flatMap_cons]
        refine .append ⟨rfl, rfl, rfl, rfl, trivial⟩ ih ?_
        cases failed <;> rfl
  have hskipped : ∀ action ∈ [ClassAction.emit (P.event .started)] ++
      P.skipped.map (fun c => .emit (c.event P.place (.skipped skipReason))) ++ [.openGate],
      action.isRecord = false ∧ action.tellsFailure = false := by
    intro action haction
    simp only [List.mem_append, List.mem_map, List.mem_singleton] at haction
    rcases haction with (rfl | ⟨c, -, rfl⟩) | rfl <;> exact ⟨rfl, rfl⟩
  refine .append (.append (.of_plain hskipped) (hfailed P.failed) ?_)
    (.of_plain (P.plain_ending 0)) (P.head_ending 0)
  cases P.failed <;> rfl

end ClassPlan

namespace Job

variable {job : Job} {options : RunOptions} {opened : Except Error (ExecutionId × List Item)}

lemma plain_work {f : Followed} {action : JobAction} (h : action ∈ job.work options f) :
    action.leavesFailing = false ∧ action.tellsFailure = false := by
  cases action with
  | write report => exact ⟨rfl, rfl⟩
  | leave verdict => exact absurd rfl (List.countP_eq_zero.mp (countP_work job options f) _ h)
  | emit e =>
      refine ⟨rfl, ?_⟩
      have hinner : e ∈ job.innerEvents options f := by
        rw [← toldBy_work]
        exact List.mem_filterMap.mpr ⟨.emit e, h, rfl⟩
      exact (isInner_of_mem_innerEvents hinner).failsScenario

lemma head_actions (job : Job) (options : RunOptions)
    (opened : Except Error (ExecutionId × List Item)) :
    (job.actions options opened).head?.any JobAction.tellsFailure = false := by
  rw [actions_eq]
  cases h : job.work options (job.followed opened) with
  | nil => rfl
  | cons action rest => exact (plain_work (h ▸ List.mem_cons_self)).2

/-- **The actions of a scenario**: it leaves with its verdict right before its end is told. -/
theorem announced_actions : Announced JobAction.leavesFailing JobAction.tellsFailure
    (job.actions options opened) := by
  rw [actions_eq]
  exact .append (.of_plain fun action haction => plain_work haction) ⟨rfl, rfl, trivial⟩ rfl

end Job

/-! ## Failures that are told next -/

/-- The task of the class tells next that a scenario failed. -/
def ClassPhase.owes : ClassPhase → Bool
  | .running actions => actions.head?.any ClassAction.tellsFailure
  | _ => false

/-- The task of the scenario tells next that it failed. -/
def Phase.owes : Phase → Bool
  | .acting actions => actions.head?.any JobAction.tellsFailure
  | .telling _ => true
  | _ => false

lemma Phase.owes_grant (phase : Phase) : phase.grant.owes = phase.owes := by
  cases phase <;> rfl

lemma Phase.owes_start (phase : Phase) : phase.start.owes = phase.owes := by
  cases phase <;> rfl

/-- A task passes its failure on: it spoils the verdict as soon as it owes a failure, and it tells
what it owed. -/
structure ClassScope.Passes (scope : ClassScope) (owes : Bool) (scope' : ClassScope) (owes' : Bool)
    (more : List Event) : Prop where
  verdict : scope'.verdict = .failure ↔ scope.verdict = .failure ∨ owes' = true
  told : more.countP Event.failsScenario = owes.toNat

namespace ClassScope.Passes

variable {scope scope' : ClassScope}

/-- A step that tells nothing and owes nothing. -/
lemma silent (hworst : scope'.worst = scope.worst) : scope.Passes false scope' false [] where
  verdict := by
    rw [verdict_congr hworst]
    simp
  told := rfl

/-- If a class fails exactly if a failure was told, is told next by the task, or is told next by
others, then that is still so behind the step. -/
lemma agreed {owes owes' : Bool} {log more : List Event} {others : Nat}
    (h : scope.Passes owes scope' owes' more)
    (hbefore : scope.verdict = .failure ↔
      0 < log.countP Event.failsScenario + (owes.toNat + others)) :
    scope'.verdict = .failure ↔
      0 < (log ++ more).countP Event.failsScenario + (owes'.toNat + others) := by
  rw [h.verdict, hbefore, List.countP_append, h.told]
  cases owes' with
  | false =>
      rw [or_iff_left Bool.false_ne_true, Bool.toNat_false]
      omega
  | true =>
      refine iff_of_true (Or.inr rfl) ?_
      rw [Bool.toNat_true]
      omega

end ClassScope.Passes

namespace ClassRun

variable {σ : Type} {b : Backend σ} {options : RunOptions} {job : Job} {phase phase' : Phase}
  {scope scope' : ClassScope} {o o' : Outside σ} {c c' : ClassRun} {events log more : List Event}

/-- The number of failures of scenarios that are told next. -/
def untold (c : ClassRun) : Nat :=
  c.phase.owes.toNat + total (fun s => s.phase.owes.toNat) c.scenarios

/-- **A class agrees with its events**: it fails so far exactly if it has told that a scenario
failed, or tells it next. -/
def Agreed (c : ClassRun) (log : List Event) : Prop :=
  c.phase ≠ .crashed →
    (c.scope.verdict = .failure ↔ 0 < log.countP Event.failsScenario + c.untold)

lemma total_owes_changePhase {f : Phase → Phase} (hf : ∀ phase, (f phase).owes = phase.owes)
    (c : ClassRun) (k : Nat) :
    total (fun s : ScenarioRun => s.phase.owes.toNat) (c.changePhase k f).scenarios =
      total (fun s : ScenarioRun => s.phase.owes.toNat) c.scenarios := by
  refine total_congr (List.ext_getElem? fun l => ?_)
  rw [List.getElem?_map, List.getElem?_map, getElem?_changePhase]
  cases c.scenarios[l]? with
  | none => rfl
  | some s => by_cases hkl : k = l <;> simp [hkl, hf]

lemma total_owes_eq_zero
    (h : ∀ (l : Nat) (s : ScenarioRun), c.scenarios[l]? = some s → s.phase.owes = false) :
    total (fun s : ScenarioRun => s.phase.owes.toNat) c.scenarios = 0 := by
  refine (total_const (n := 0) fun s hs => ?_).trans (Nat.mul_zero _)
  obtain ⟨l, hl⟩ := List.getElem?_of_mem hs
  rw [h l s hl]
  rfl

/-- **A step of the task of a scenario** passes on what it owes. -/
theorem ScenarioStep.passes
    (hstep : ScenarioStep b options job phase scope o phase' scope' o')
    (hstage : job.Stage options phase events) (hevents : o'.events = o.events ++ more) :
    scope.Passes phase.owes scope' phase'.owes more := by
  have hnone : o'.events = o.events → more = [] := fun heq => by
    rw [heq] at hevents
    exact List.append_right_eq_self.mp hevents.symm
  have hopened : ∀ opened, scope.Passes false scope (Phase.acting (job.actions options opened)).owes
      [] := fun opened => by
    rw [Phase.owes, job.head_actions]
    exact .silent rfl
  cases hstep with
  | submitted => exact hnone rfl ▸ .silent rfl
  | refused => exact hnone rfl ▸ hopened _
  | opened => exact hnone rfl ▸ hopened _
  | unopened => exact hnone rfl ▸ hopened _
  | @acted _ _ action rest =>
      cases hstage with
      | @acting opened done _ hactions =>
          have hannounced : Announced JobAction.leavesFailing JobAction.tellsFailure
              (action :: rest) := .of_append (hactions ▸ Job.announced_actions)
          rw [Outside.events_behind] at hevents
          obtain rfl := List.append_cancel_left hevents
          refine ⟨?_, countP_toList ..⟩
          -- what is told next is known from the action that is carried out
          rw [show (Phase.acting rest).owes = action.leavesFailing from hannounced.head]
          cases action with
          | leave verdict =>
              rw [JobAction.leavesFailing, decide_eq_true_iff]
              exact ClassScope.verdict_record ..
          | emit e => exact (or_iff_left Bool.false_ne_true).symm
          | write report => exact (or_iff_left Bool.false_ne_true).symm
      | complete _ hphase => simp at hphase
  | ended => exact hnone rfl ▸ .silent rfl
  | rescued =>
      cases hstage with
      | complete _ hphase => simp at hphase
  | told =>
      cases hstage with
      | complete _ hphase => simp at hphase
  | released => exact hnone rfl ▸ .silent rfl
  | counted => exact hnone rfl ▸ .silent rfl

end ClassRun

/-- **A step of the task of a class** passes on what it owes, unless its gate cannot be made. -/
theorem ClassPlan.TaskStep.passes {σ : Type} {P : ClassPlan} {c c' : ClassRun} {o o' : Outside σ}
    {reached reached' : Reached} {more : List Event}
    (hstep : P.TaskStep c o reached c' o' reached') (hevents : o'.events = o.events ++ more)
    (hcrashed : c'.phase ≠ .crashed) :
    c.scope.Passes c.phase.owes c'.scope c'.phase.owes more := by
  have hnone : o'.events = o.events → more = [] := fun heq => by
    rw [heq] at hevents
    exact List.append_right_eq_self.mp hevents.symm
  cases hstep with
  | @prepared done todo action hplan hphase hgate =>
      have hannounced : Announced ClassAction.isRecord ClassAction.tellsFailure
          (action :: (todo ++ P.ending 0)) := by
        have hprogram := P.announced_program
        rw [hplan, List.append_assoc] at hprogram
        exact hprogram.of_append
      rw [Outside.events_prepared] at hevents
      obtain rfl := List.append_cancel_left hevents
      rw [hphase]
      refine ⟨?_, countP_toList ..⟩
      rw [show (ClassPhase.running (todo ++ P.ending 0)).owes = action.isRecord from
        hannounced.head]
      cases action with
      | record verdict =>
          obtain rfl : verdict = .failure := record_of_mem_prelude (by rw [hplan]; simp)
          exact (ClassScope.verdict_record ..).trans (by simp [ClassAction.isRecord])
      | _ => exact (or_iff_left Bool.false_ne_true).symm
  | overloaded => exact absurd rfl hcrashed
  | @granted k _ _ _ hphase hacquire =>
      rw [hphase, ClassPhase.owes, P.head_ending]
      exact hnone rfl ▸ .silent (ClassScope.worst_of_acquire? hacquire)
  | begun _ hphase =>
      obtain rfl := List.append_cancel_left hevents
      rw [hphase]
      exact ⟨(or_iff_left Bool.false_ne_true).symm, rfl⟩
  | entered _ hphase =>
      rw [hphase]
      exact hnone rfl ▸ .silent (ClassScope.worst_enter ..)
  | @launched k _ _ hphase =>
      have hnext : (ClassPhase.running (P.ending (k + 1))).owes = false := P.head_ending _
      rw [hphase]
      exact hnone rfl ▸ hnext ▸ .silent rfl
  | awaited hphase =>
      rw [hphase]
      exact hnone rfl ▸ .silent rfl
  | closed hphase =>
      obtain rfl := List.append_cancel_left hevents
      rw [hphase]
      exact ⟨(or_iff_left Bool.false_ne_true).symm, rfl⟩

lemma ClassPlan.TaskStep.total_owes {σ : Type} {P : ClassPlan} {c c' : ClassRun}
    {o o' : Outside σ} {reached reached' : Reached}
    (hstep : P.TaskStep c o reached c' o' reached') :
    total (fun s : ScenarioRun => s.phase.owes.toNat) c'.scenarios =
      total (fun s : ScenarioRun => s.phase.owes.toNat) c.scenarios := by
  cases hstep with
  | granted => exact ClassRun.total_owes_changePhase Phase.owes_grant ..
  | launched => exact ClassRun.total_owes_changePhase Phase.owes_start ..
  | _ => rfl

namespace ClassRun.Agreed

variable {σ : Type} {b : Backend σ} {options : RunOptions} {P : ClassPlan} {c c' : ClassRun}
  {o o' : Outside σ} {reached reached' : ClassPlan.Reached} {log more events : List Event}

/-- A class that has not started has told no failure, and owes none. -/
lemma planned (found : Candidate → Except Error Environment) (options : RunOptions)
    (isSkipped : NodeId → Bool) (group : Nat) (node : Node) :
    (ClassPlan.planned found options isSkipped group node).Agreed [] := by
  intro _
  have hnone := @total_owes_eq_zero (ClassPlan.planned found options isSkipped group node)
      fun l s hl => by
    rw [ClassPlan.phase_planned found options isSkipped group node hl]
    rfl
  refine iff_of_false Verdict.noConfusion ?_
  rw [untold, hnone]
  exact Nat.lt_irrefl 0

/-- The program of a class does not begin with a failure. -/
lemma begin (h : c.Agreed log) (hprogram : c.program = P.prelude ++ P.ending 0) :
    c.begin.Agreed log := by
  unfold ClassRun.begin
  split
  · next hphase =>
    have hbefore := h (by rw [hphase]; exact ClassPhase.noConfusion)
    rw [untold, hphase] at hbefore
    intro _
    rw [untold, hprogram]
    exact hbefore
  · exact h

/-- **A step of the task of the class.** -/
theorem task (h : c.Agreed log) (hrunning : c.IsRunning)
    (hstep : P.TaskStep c o reached c' o' reached') (hevents : o'.events = o.events ++ more) :
    c'.Agreed (log ++ more) := by
  intro hcrashed'
  obtain ⟨actions, hphase⟩ := hrunning
  have hbefore := h (by rw [hphase]; exact ClassPhase.noConfusion)
  rw [untold, ← hstep.total_owes] at hbefore
  exact (hstep.passes hevents hcrashed').agreed hbefore

/-- **A step of the task of a scenario.** -/
theorem scenario (h : c.Agreed log) (hrunning : c.IsRunning) {l : Nat} {job : Job}
    {phase phase' : Phase} {scope' : ClassScope} (hl : c.scenarios[l]? = some ⟨job, phase⟩)
    (hstep : ScenarioStep b options job phase c.scope o phase' scope' o')
    (hstage : job.Stage options phase events) (hevents : o'.events = o.events ++ more) :
    ({ c with scope := scope' }.setPhase l phase').Agreed (log ++ more) := by
  intro _
  obtain ⟨actions, hphase⟩ := hrunning
  have hbefore := h (by rw [hphase]; exact ClassPhase.noConfusion)
  have htotal : total (fun s : ScenarioRun => s.phase.owes.toNat)
        ({ c with scope := scope' }.setPhase l phase').scenarios + phase.owes.toNat =
      total (fun s : ScenarioRun => s.phase.owes.toNat) c.scenarios + phase'.owes.toNat :=
    total_modify (fun s : ScenarioRun => s.phase.owes.toNat)
      (fun s => { s with phase := phase' }) hl
  have hle : phase.owes.toNat ≤ total (fun s : ScenarioRun => s.phase.owes.toNat) c.scenarios :=
    le_total (fun s : ScenarioRun => s.phase.owes.toNat) hl
  -- what the class and the other scenarios tell next
  obtain ⟨others, hothers, hothers'⟩ : ∃ others, c.untold = phase.owes.toNat + others ∧
      ({ c with scope := scope' }.setPhase l phase').untold = phase'.owes.toNat + others := by
    refine ⟨c.untold - phase.owes.toNat, ?_, ?_⟩
    · rw [untold]
      omega
    · show c.phase.owes.toNat + total _ _ = _
      rw [untold]
      omega
  rw [hothers] at hbefore
  rw [hothers']
  exact (hstep.passes hstage hevents).agreed hbefore

/-- **A class that is finished with all of its scenarios** fails exactly if it has told that one of
them failed. -/
theorem of_done (h : c.Agreed log) {verdict : Verdict} (hphase : c.phase = .finished verdict)
    (hdone : ∀ (l : Nat) (s : ScenarioRun), c.scenarios[l]? = some s → s.phase = .done) :
    c.scope.verdict = .failure ↔ ∃ e ∈ log, e.failsScenario = true := by
  have hnone := total_owes_eq_zero fun l s hl => by
    rw [hdone l s hl]
    rfl
  rw [h (by rw [hphase]; exact ClassPhase.noConfusion), untold, hphase, hnone]
  exact List.countP_pos_iff

end ClassRun.Agreed

/-! ## Runs -/

/-- What a run keeps of its classes whatever the backend answers: they follow their plans, and agree
with their events. -/
structure ClassPlan.FollowsAgreed (options : RunOptions) (P : ClassPlan) (c : ClassRun)
    (log : List Event) : Prop where
  follows : P.Follows options c log
  agreed : c.Agreed log

/-- One verdict that fails spoils the worst of them. -/
lemma Verdict.foldl_worse_eq_failure_iff {α : Type} (f : α → Verdict) (xs : List α) (v : Verdict) :
    xs.foldl (fun v x => v.worse (f x)) v = .failure ↔ v = .failure ∨ ∃ x ∈ xs, f x = .failure := by
  induction xs generalizing v with
  | nil => simp
  | cons x xs ih =>
      rw [List.foldl_cons, ih, List.exists_mem_cons_iff, ← or_assoc]
      refine or_congr_left ?_
      cases v <;> cases f x <;> simp [worse]

namespace Run

variable {σ : Type} {b : Backend σ} {options : RunOptions} {request : RunRequest}
  {findings : Findings} {r : Run σ} {s : σ}

/-- A turn in which no task is cut off. -/
lemma goesOn_agreed_of_turn {k : Nat} {P : ClassPlan} {c c' : ClassRun} {o' : Outside σ}
    {actor : Actor} {log : List Event} (hP : P ∈ request.plans findings)
    (h : P.FollowsAgreed options c log) (hturn : r.Turn b options k c (.advance actor) c' o') :
    P.GoesOn (ClassPlan.FollowsAgreed options) c r.outside log c' o' := by
  obtain ⟨hrunning, hgoes, more, hevents, hwithin, hfollows⟩ := goesOn_of_turn hP h.follows hturn
  refine ⟨hrunning, hgoes, more, hevents, hwithin, hfollows, ?_⟩
  obtain ⟨reached, tail, hlinked, hlogged⟩ := h.follows.logged
  cases hturn with
  | task hadvance =>
      obtain ⟨reached', hstep, -⟩ := ClassPlan.taskStep_of_advance hlinked.stage hadvance
      exact h.agreed.task hrunning hstep hevents
  | scenario hadvance =>
      obtain ⟨job, phase, phase', scope', hl, hstep, rfl⟩ :=
        ClassRun.scenarioStep_of_advance hadvance
      exact h.agreed.scenario hrunning hl hstep (hlogged.stages hl) hevents

/-- **Every run** keeps this if no task is cut off. -/
theorem keeps_agreed_of_proceeds {choices : List Choice}
    (hproceeds : Proceeds (fun _ => Choice.IsQuiet) b options (planned findings options request s)
      choices r) : r.Keeps (ClassPlan.FollowsAgreed options) findings options request := by
  refine hproceeds.induct (keeps_planned findings options request s fun i node => ⟨?_, ?_⟩) ?_
    fun h _ => h.consult _
  · exact ClassPlan.followsBy_planned (Job.course_stageBy ..) (findings i) options
      request.skip.contains i node
  · exact ClassRun.Agreed.planned (findings i) options request.skip.contains i node
  · rintro r r' _ h ⟨actor, rfl⟩ hstep
    have hmild : (Choice.advance actor).IsMild := trivial
    refine h.step hmild hstep (fun h => ⟨h.follows.begin, h.agreed.begin h.follows.program⟩)
      fun hP _ hagreed hturn => ?_
    exact goesOn_agreed_of_turn (List.mem_of_getElem? hP) hagreed hturn

/-- The engine tells no failure of a scenario. -/
lemma failsScenario_of_mem_enginesLog {e : Event} {result : NodeResult}
    (htold : r.enginesLog request =
      RunRequest.toldBy (request.prelude options) ++ [request.event (.finished result)])
    (he : e ∈ r.enginesLog request) : e.failsScenario = false := by
  rcases cases_of_mem_enginesLog htold he with rfl | ⟨c, -, rfl⟩ | rfl <;> rfl

/-- The verdict at the end of a run that keeps this. -/
theorem Keeps.verdict_eq_failure_iff
    (hkeeps : r.Keeps (ClassPlan.FollowsAgreed options) findings options request)
    (hstuck : r.Stuck b options) (hlimit : max options.concurrency 1 ≤ ClassScope.limit) :
    r.verdict = .failure ↔ ∃ e ∈ r.outside.events, e.failsScenario = true := by
  obtain ⟨⟨htold, -⟩, hclasses⟩ :=
    hkeeps.done_of_stuck (fun hclass => ⟨_, hclass.follows⟩) hstuck hlimit
  have hclass : ∀ {k : Nat} {P : ClassPlan} {c : ClassRun}, (request.plans findings)[k]? = some P →
      r.classes[k]? = some c →
      (c.outcome = .failure ↔ ∃ e ∈ r.logOf P.place, e.failsScenario = true) := by
    intro k P c hP hk
    obtain ⟨c', hk', hagreed⟩ := hkeeps.classes hP
    obtain rfl := Option.some.inj (hk.symm.trans hk')
    obtain ⟨⟨verdict, hphase⟩, hdone⟩ := hclasses k c hk
    rw [← hagreed.agreed.of_done hphase hdone, ← hagreed.follows.verdict hphase, ClassRun.outcome,
      hphase]
  rw [verdict, Verdict.foldl_worse_eq_failure_iff, or_iff_right Verdict.noConfusion]
  constructor
  · rintro ⟨c, hc, hfails⟩
    obtain ⟨k, hk⟩ := List.getElem?_of_mem hc
    obtain ⟨P, hP, -⟩ := hkeeps.exists_plan hk
    obtain ⟨e, he, hlost⟩ := (hclass hP hk).mp hfails
    exact ⟨e, (List.mem_filter.mp he).1, hlost⟩
  · rintro ⟨e, he, hlost⟩
    obtain hengines | ⟨P, hP, hown⟩ := mem_enginesLog_or_mem_logOf findings request he
    · have hnot := failsScenario_of_mem_enginesLog htold hengines
      exact absurd hlost (by rw [hnot]; exact Bool.false_ne_true)
    · obtain ⟨k, hP⟩ := List.getElem?_of_mem hP
      obtain ⟨c, hk, -⟩ := hkeeps.classes hP
      exact ⟨c, List.mem_of_getElem? hk, (hclass hP hk).mpr ⟨e, hown, hlost⟩⟩

/-- **The verdict of a run** at its end is a failure exactly if the run has told that a scenario
failed. -/
theorem Completes.verdict_eq_failure_iff (h : Completes b options request s r) :
    r.verdict = .failure ↔ ∃ e ∈ r.outside.events, e.failsScenario = true := by
  obtain ⟨choices, hreaches, hquiet⟩ := h.reaches
  obtain ⟨findings, hproceeds, hstuck⟩ := hreaches.exists_proceeds hquiet
  rw [← foreseen_verdict findings r]
  exact (keeps_agreed_of_proceeds hproceeds).verdict_eq_failure_iff (hstuck h.stuck) h.limit

end Run

end ScenarioRunner
