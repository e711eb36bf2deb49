import ScenarioRunner.Proofs.Engine.Rescue

/-!
# Scenarios in flight

The identifiers that a class holds in flight, against the phases of its scenarios.

* `Phase.isInFlight`: the task of a scenario has been launched, and the scenario has not left.
* `ClassPlan.Distinct`: the scenarios that may run at the same time have different identifiers.
* `ClassRun.Booked`: every scenario in flight is held under its identifier.  `ClassRun.Booked.task`
  and `ClassRun.Booked.scenario` keep it from turn to turn.
* `Run.keeps_supervised_of_proceeds`: if tasks are cut off only in flight and the scenarios of a class
  are distinct, then no scenario that was cut off loses its end.

An identifier is held once however many scenarios bear it, so that one of them takes it away from the
others.
-/

namespace ScenarioRunner

/-! ## Phases in flight -/

/-- The action leaves the scope of the class. -/
def JobAction.isLeave : JobAction → Bool
  | .leave _ => true
  | _ => false

namespace Phase

/-- The scenario is in flight: its task has been launched, and it has not left. -/
def isInFlight : Phase → Bool
  | submitting | opening _ | rescuing _ => true
  | acting actions => actions.any JobAction.isLeave
  | _ => false

variable {phase : Phase}

lemma holdsPermit_of_isInFlight (h : phase.isInFlight = true) : phase.holdsPermit = true := by
  cases phase <;> first | rfl | exact absurd h Bool.false_ne_true

lemma isLaunched_of_isInFlight (h : phase.isInFlight = true) : phase.isLaunched = true := by
  cases phase <;> first | rfl | exact absurd h Bool.false_ne_true

lemma ne_telling_of_isInFlight (h : phase.isInFlight = true) (reason : String) :
    phase ≠ .telling reason := by
  rintro rfl
  exact Bool.false_ne_true h

end Phase

namespace Job

variable {job : Job} {options : RunOptions} {opened : Except Error (ExecutionId × List Item)}

/-- A job works without leaving. -/
lemma countP_work (job : Job) (options : RunOptions) (f : Followed) :
    (job.work options f).countP JobAction.isLeave = 0 := by
  have hemit : ∀ moves, (job.emitAll moves).countP JobAction.isLeave = 0 := by
    intro moves
    rw [emitAll, List.countP_map]
    exact List.countP_eq_zero.mpr fun e _ => Bool.false_ne_true
  have hpublish : (job.publish options f).countP JobAction.isLeave = 0 := by
    unfold publish
    cases f.outcome with
    | error e => rfl
    | ok report => cases options.folder <;> rfl
  rw [work, List.countP_append, List.countP_append, hemit, hemit, hpublish]

/-- A job leaves once. -/
lemma countP_actions (job : Job) (options : RunOptions)
    (opened : Except Error (ExecutionId × List Item)) :
    (job.actions options opened).countP JobAction.isLeave = 1 := by
  rw [actions_eq, List.countP_append, countP_work]
  rfl

lemma any_actions (job : Job) (options : RunOptions)
    (opened : Except Error (ExecutionId × List Item)) :
    (job.actions options opened).any JobAction.isLeave = true := by
  have hpos : 0 < (job.actions options opened).countP JobAction.isLeave := by
    rw [countP_actions]
    exact Nat.one_pos
  simpa using List.countP_pos_iff.mp hpos

/-- A job that has left does not leave again. -/
lemma any_of_leave {done rest : List JobAction} {verdict : Verdict}
    (hactions : job.actions options opened = done ++ .leave verdict :: rest) :
    rest.any JobAction.isLeave = false := by
  have hcount := countP_actions job options opened
  rw [hactions, List.countP_append, List.countP_cons_of_pos rfl] at hcount
  have hzero : rest.countP JobAction.isLeave = 0 := by omega
  simpa using hzero

end Job

namespace ClassScope

lemma inFlight_enter (scope : ClassScope) (id : NodeId) :
    (scope.enter id).inFlight =
      if id ∈ scope.inFlight then scope.inFlight else scope.inFlight ++ [id] := by
  unfold enter
  by_cases h : id ∈ scope.inFlight <;> simp [h]

lemma mem_enter_iff {scope : ClassScope} {id id' : NodeId} :
    id' ∈ (scope.enter id).inFlight ↔ id' = id ∨ id' ∈ scope.inFlight := by
  rw [inFlight_enter]
  split
  · next h => exact ⟨Or.inr, fun hid => hid.elim (fun heq => heq ▸ h) (fun hmem => hmem)⟩
  · rw [List.mem_append, List.mem_singleton, or_comm]

lemma inFlight_of_acquire? {scope scope' : ClassScope} (h : scope.acquire? = some scope') :
    scope'.inFlight = scope.inFlight := by
  rw [(acquire?_eq_some_iff.mp h).2]

lemma inFlight_prepared (scope : ClassScope) (action : ClassAction) :
    (scope.prepared action).inFlight = scope.inFlight := by
  cases action <;> rfl

end ClassScope

/-! ## Scenarios that can be told apart -/

/-- Scenarios that hold a permit at the same time have different identifiers. -/
def ClassRun.Apart (c : ClassRun) : Prop :=
  ∀ (l l' : Nat) (s s' : ScenarioRun), c.scenarios[l]? = some s → c.scenarios[l']? = some s' →
    l ≠ l' → s.phase.holdsPermit = true → s'.phase.holdsPermit = true →
    s.job.node.id ≠ s'.job.node.id

/-- **Scenarios that may run at the same time have different identifiers**: one runs at a time, or no
two have the same one. -/
def ClassPlan.Distinct (options : RunOptions) (P : ClassPlan) : Prop :=
  options.concurrency ≤ 1 ∨ (P.jobs.map fun job => job.node.id).Nodup

lemma ClassPlan.Distinct.apart {options : RunOptions} {P : ClassPlan} {c : ClassRun}
    {reached : Reached} (h : P.Distinct options) (hlinked : P.Linked c reached)
    (hbalanced : c.Balanced) (hcapacity : c.scope.capacity = max options.concurrency 1) :
    c.Apart := by
  intro l l' s s' hl hl' hne hholds hholds' hid
  rcases h with hone | hnodup
  · -- the gate has one permit, which both of them hold
    have hheld := add_le_total (fun s : ScenarioRun => s.phase.holdsPermit.toNat) hl hl' hne
    have hpermits := hbalanced.permits
    simp only [hholds, hholds', Bool.toNat_true] at hheld
    rw [ClassRun.held] at hpermits
    omega
  · have hids : ∀ {l : Nat} {s : ScenarioRun}, c.scenarios[l]? = some s →
        (P.jobs.map fun job => job.node.id)[l]? = some s.job.node.id := by
      intro l s hl
      rw [List.getElem?_map, hlinked.job_eq hl, Option.map_some]
    have hlt := (List.getElem?_eq_some_iff.mp (hids hl)).1
    have hsame := (hids hl).trans (hid ▸ (hids hl').symm)
    exact hne ((List.getElem?_inj hlt hnodup).mp hsame)

/-! ## The book of a class -/

/-- **Every scenario in flight is held under its identifier**, from just before its task is launched
until it leaves. -/
structure ClassRun.Booked (c : ClassRun) : Prop where
  flying : ∀ {l : Nat} {s : ScenarioRun}, c.scenarios[l]? = some s → s.phase.isInFlight = true →
    s.job.node.id ∈ c.scope.inFlight
  entered : ∀ {k : Nat} {rest : List ClassAction} {s : ScenarioRun},
    c.phase = .running (.start k :: rest) → c.scenarios[k]? = some s →
    s.job.node.id ∈ c.scope.inFlight

/-- What a turn of a scenario changes in the book: nothing, or the scenario leaves. -/
inductive ClassScope.Books (job : Job) (phase : Phase) (scope : ClassScope) (phase' : Phase)
    (scope' : ClassScope) : Prop where
  | kept (hinFlight : scope'.inFlight = scope.inFlight)
    (hflying : phase'.isInFlight = true → phase.isInFlight = true)
  | left (hinFlight : scope'.inFlight = scope.inFlight.filter (· != job.node.id))
    (hflying : phase'.isInFlight = false) (hholds : phase.holdsPermit = true)

namespace ClassRun

variable {σ : Type} {b : Backend σ} {options : RunOptions} {job : Job} {phase phase' : Phase}
  {scope scope' : ClassScope} {o o' : Outside σ} {lossy : Prop} {events : List Event}

lemma ScenarioStep.books (hstep : ScenarioStep b options job phase scope o phase' scope' o')
    (hfate : job.Fate lossy options phase events) :
    ClassScope.Books job phase scope phase' scope' := by
  cases hstep with
  | submitted => exact .kept rfl id
  | refused => exact .kept rfl fun _ => rfl
  | opened => exact .kept rfl fun _ => rfl
  | unopened => exact .kept rfl fun _ => rfl
  | @acted _ _ action rest =>
      cases action with
      | emit e => exact .kept rfl id
      | write report => exact .kept rfl id
      | leave verdict =>
          cases hfate with
          | onCourse hstage =>
              cases hstage with
              | acting opened hactions => exact .left rfl (Job.any_of_leave hactions) rfl
              | complete _ hphase => simp at hphase
          | rescued _ hphase => simp at hphase
          | muted _ hphase => simp at hphase
  | ended => exact .kept rfl fun h => absurd h Bool.false_ne_true
  | rescued =>
      refine .left rfl ?_ rfl
      split <;> rfl
  | told => exact .kept rfl fun h => absurd h Bool.false_ne_true
  | released => exact .kept rfl fun h => absurd h Bool.false_ne_true
  | counted => exact .kept rfl fun h => absurd h Bool.false_ne_true

end ClassRun

namespace ClassPlan

variable {σ : Type} {P : ClassPlan} {c c' : ClassRun} {o o' : Outside σ}
  {reached reached' : Reached}

/-- A job whose task is launched next has been started, and is the first one that is not launched. -/
lemma Stage.of_start {k : Nat} {rest : List ClassAction}
    (h : P.Stage (.running (.start k :: rest)) reached) :
    reached.launched = k ∧ reached.started = k + 1 ∧ reached.granted = k + 1 := by
  generalize hactions : ClassAction.start k :: rest = actions at h
  generalize hphase : ClassPhase.running actions = phase at h
  cases h with
  | waiting => exact absurd hphase ClassPhase.noConfusion
  | finished => exact absurd hphase ClassPhase.noConfusion
  | crashed => exact absurd hphase ClassPhase.noConfusion
  | @preparing done todo action hplan =>
      obtain rfl := ClassPhase.running.inj hphase
      have hmem : action ∈ P.prelude := by
        rw [hplan]
        simp
      rw [← (List.cons.inj hactions).1] at hmem
      have := cases_of_mem_prelude hmem
      simp at this
  | @ready l hl =>
      obtain rfl := ClassPhase.running.inj hphase
      rcases Nat.lt_or_ge l P.jobs.length with hlt | hge
      · rw [ending_of_getElem? (List.getElem?_eq_getElem hlt)] at hactions
        exact absurd (List.cons.inj hactions).1 ClassAction.noConfusion
      · rw [ending_of_length_le hge] at hactions
        exact absurd (List.cons.inj hactions).1 ClassAction.noConfusion
  | granted hjob =>
      obtain rfl := ClassPhase.running.inj hphase
      exact absurd (List.cons.inj hactions).1 ClassAction.noConfusion
  | begun hjob =>
      obtain rfl := ClassPhase.running.inj hphase
      exact absurd (List.cons.inj hactions).1 ClassAction.noConfusion
  | @entered l job hjob =>
      obtain rfl := ClassPhase.running.inj hphase
      obtain rfl := ClassAction.start.inj (List.cons.inj hactions).1
      exact ⟨rfl, rfl, rfl⟩
  | closing =>
      obtain rfl := ClassPhase.running.inj hphase
      exact absurd (List.cons.inj hactions).1 ClassAction.noConfusion

end ClassPlan

namespace ClassRun.Booked

variable {σ : Type} {b : Backend σ} {options : RunOptions} {P : ClassPlan} {c c' : ClassRun}
  {o o' : Outside σ} {reached reached' : ClassPlan.Reached}

/-- A class with the same scenarios, which launches none of them next. -/
lemma of_scenarios (h : c.Booked) (hscenarios : c'.scenarios = c.scenarios)
    (hkept : ∀ id ∈ c.scope.inFlight, id ∈ c'.scope.inFlight)
    (hnot : ∀ k rest, c'.phase ≠ .running (.start k :: rest)) : c'.Booked where
  flying := by
    intro l s hl hflying
    rw [hscenarios] at hl
    exact hkept _ (h.flying hl hflying)
  entered := fun hphase _ => absurd hphase (hnot _ _)

/-- A class with another phase of one scenario, which launches none next. -/
lemma of_changePhase (h : c.Booked) {k : Nat} {f : Phase → Phase}
    (hscenarios : c'.scenarios = (c.changePhase k f).scenarios)
    (hkept : c'.scope.inFlight = c.scope.inFlight)
    (hflying : ∀ {s : ScenarioRun}, c.scenarios[k]? = some s → (f s.phase).isInFlight = true →
      s.job.node.id ∈ c.scope.inFlight)
    (hnot : ∀ k rest, c'.phase ≠ .running (.start k :: rest)) : c'.Booked where
  flying := by
    intro l s hl hphase
    rw [hscenarios, getElem?_changePhase, Option.map_eq_some_iff] at hl
    obtain ⟨s', hs', rfl⟩ := hl
    rw [hkept]
    split at hphase
    · next hkl =>
      subst hkl
      rw [if_pos rfl]
      exact hflying (s := s') hs' hphase
    · next hkl =>
      rw [if_neg hkl]
      exact h.flying hs' hphase
  entered := fun hphase _ => absurd hphase (hnot _ _)

lemma begin (h : c.Booked) (hprogram : c.program = P.prelude ++ P.ending 0) : c.begin.Booked := by
  unfold ClassRun.begin
  split
  · refine h.of_scenarios rfl (fun _ hid => hid) fun k rest hphase => ?_
    have hactions := ClassPhase.running.inj hphase
    rw [hprogram] at hactions
    exact absurd (List.cons.inj hactions).1 ClassAction.noConfusion
  · exact h

/-- **A step of the task of the class** keeps the book: a scenario is held before it is launched. -/
theorem task (h : c.Booked) (hlinked : P.Linked c reached)
    (hstep : P.TaskStep c o reached c' o' reached') (hstage : P.Stage c'.phase reached') :
    c'.Booked := by
  have hnot : reached'.launched = reached'.started ∨ reached'.granted ≠ reached'.started →
      ∀ k rest, c'.phase ≠ .running (.start k :: rest) := by
    intro hne k rest hphase
    rw [hphase] at hstage
    have := hstage.of_start
    omega
  cases hstep with
  | @prepared done todo action hplan hphase hgate =>
      refine h.of_scenarios rfl (fun id hid => ?_) (hnot (Or.inl rfl))
      rw [ClassScope.inFlight_prepared]
      exact hid
  | overloaded => exact h.of_scenarios rfl (fun _ hid => hid) (hnot (Or.inl rfl))
  | @granted k job scope hjob hphase hacquire =>
      refine h.of_changePhase rfl (ClassScope.inFlight_of_acquire? hacquire) ?_
        (hnot (Or.inr (Nat.succ_ne_self k)))
      intro s hk hflying
      refine h.flying hk ?_
      cases hs : s.phase with
      | waiting => simp [hs, Phase.grant, Phase.isInFlight] at hflying
      | _ => simpa [hs, Phase.grant] using hflying
  | @begun k job hjob hphase =>
      exact h.of_scenarios rfl (fun _ hid => hid) fun l rest hphase =>
        absurd (List.cons.inj (ClassPhase.running.inj hphase)).1 ClassAction.noConfusion
  | @entered k job hjob hphase =>
      refine ⟨fun hl hflying => ClassScope.mem_enter_iff.mpr (Or.inr (h.flying hl hflying)), ?_⟩
      intro l rest s hphase' hl
      obtain rfl := ClassAction.start.inj (List.cons.inj (ClassPhase.running.inj hphase')).1
      obtain rfl := Option.some.inj (hjob.symm.trans (hlinked.job_eq hl))
      exact ClassScope.mem_enter_iff.mpr (Or.inl rfl)
  | @launched k job hjob hphase =>
      refine h.of_changePhase rfl rfl ?_ (hnot (Or.inl rfl))
      intro s hk _
      exact h.entered hphase hk
  | awaited => exact h.of_scenarios rfl (fun _ hid => hid) (hnot (Or.inl rfl))
  | closed => exact h.of_scenarios rfl (fun _ hid => hid) (hnot (Or.inl rfl))

/-- **A turn of a scenario** keeps the book, if those that hold permits are told apart. -/
theorem scenario (h : c.Booked) (hlinked : P.Linked c reached) (hapart : c.Apart) {l : Nat}
    {job : Job} {phase phase' : Phase} {scope' : ClassScope}
    (hl : c.scenarios[l]? = some ⟨job, phase⟩) (hlaunched : phase.isLaunched = true)
    (hbooks : ClassScope.Books job phase c.scope phase' scope') :
    ({ c with scope := scope' }.setPhase l phase').Booked := by
  -- the scenario that is launched next holds a permit as well
  have hnext : ∀ {k rest s}, c.phase = .running (.start k :: rest) → c.scenarios[k]? = some s →
      s.phase.holdsPermit = true ∧ k ≠ l := by
    intro k rest s hphase hk
    have hstage := hlinked.stage
    rw [hphase] at hstage
    obtain ⟨hlaunch, hstarted, hgranted⟩ := hstage.of_start
    subst hlaunch
    have hs : s.phase = .granted := hlinked.phase_launched hk (by omega)
    refine ⟨by rw [hs]; rfl, ?_⟩
    rintro rfl
    have := (hlinked.launched hl).mp hlaunched
    omega
  have hscenarios : ∀ {l' s}, ({ c with scope := scope' }.setPhase l phase').scenarios[l']? = some s →
      (l' = l ∧ s = ⟨job, phase'⟩) ∨ l' ≠ l ∧ c.scenarios[l']? = some s :=
    fun hl' => eq_or_of_changePhase (c := { c with scope := scope' }) hl hl'
  cases hbooks with
  | kept hinFlight hflying =>
      refine ⟨fun {l' s} hl' hphase => ?_, fun {k rest s} hphase hk => ?_⟩
      · show s.job.node.id ∈ scope'.inFlight
        rw [hinFlight]
        rcases hscenarios hl' with ⟨rfl, rfl⟩ | ⟨-, hold⟩
        · exact h.flying (s := ⟨job, phase⟩) hl (hflying hphase)
        · exact h.flying hold hphase
      · show s.job.node.id ∈ scope'.inFlight
        rw [hinFlight]
        rcases hscenarios hk with ⟨rfl, rfl⟩ | ⟨-, hold⟩
        · exact h.entered (s := ⟨job, phase⟩) hphase hl
        · exact h.entered hphase hold
  | left hinFlight hflying hholds =>
      have hstays : ∀ {l' s}, l' ≠ l → c.scenarios[l']? = some s → s.phase.holdsPermit = true →
          s.job.node.id ∈ c.scope.inFlight → s.job.node.id ∈ scope'.inFlight := by
        intro l' s hne hl' hholds' hid
        rw [hinFlight, List.mem_filter]
        exact ⟨hid, by simpa using hapart _ _ _ _ hl' hl hne hholds' hholds⟩
      refine ⟨fun {l' s} hl' hphase => ?_, fun {k rest s} hphase hk => ?_⟩
      · rcases hscenarios hl' with ⟨rfl, rfl⟩ | ⟨hne, hold⟩
        · exact absurd (hflying.symm.trans hphase) Bool.false_ne_true
        · exact hstays hne hold (Phase.holdsPermit_of_isInFlight hphase) (h.flying hold hphase)
      · rcases hscenarios hk with ⟨rfl, rfl⟩ | ⟨hne, hold⟩
        · exact absurd rfl (hnext hphase hl).2
        · exact hstays hne hold (hnext hphase hold).1 (h.entered hphase hold)

end ClassRun.Booked

/-- A scenario that waits is not in flight. -/
lemma ClassPlan.booked_planned (found : Candidate → Except Error Environment)
    (options : RunOptions) (isSkipped : NodeId → Bool) (group : Nat) (node : Node) :
    (planned found options isSkipped group node).Booked where
  flying := by
    intro l s hl hflying
    rw [phase_planned found options isSkipped group node hl] at hflying
    exact absurd hflying Bool.false_ne_true
  entered := fun hphase _ => absurd hphase ClassPhase.noConfusion

/-! ## Runs in which tasks are cut off in flight -/

/-- **A class whose tasks are cut off in flight** follows its plan.  No scenario loses its end if they
are distinct. -/
structure ClassPlan.Supervised (options : RunOptions) (P : ClassPlan) (c : ClassRun)
    (log : List Event) : Prop where
  follows : P.FollowsBy (Job.Fate (¬ P.Distinct options) options) options c log
  booked : P.Distinct options → c.Booked

namespace Run

variable {σ : Type} {b : Backend σ} {options : RunOptions} {request : RunRequest}
  {findings : Findings} {r : Run σ}

/-- The choice cuts off nothing, or the task of a scenario that is in flight. -/
def cutsInFlight (r : Run σ) : Choice → Bool
  | .advance _ => true
  | .crash (.scenarioTask k l) _ =>
    (r.classes[k]?).any fun c => (c.phaseAt l).any Phase.isInFlight
  | .crash _ _ => false

lemma isMild_of_cutsInFlight {choice : Choice} (h : r.cutsInFlight choice = true) :
    choice.IsMild := by
  cases choice with
  | advance actor => trivial
  | crash actor reason =>
      cases actor with
      | scenarioTask k l => trivial
      | _ => exact absurd h Bool.false_ne_true

lemma isInFlight_of_cutsInFlight {k l : Nat} {c : ClassRun} {job : Job} {phase : Phase}
    {reason : String} (h : r.cutsInFlight (.crash (.scenarioTask k l) reason) = true)
    (hk : r.classes[k]? = some c) (hl : c.scenarios[l]? = some ⟨job, phase⟩) :
    phase.isInFlight = true := by
  simpa [cutsInFlight, hk, ClassRun.phaseAt, hl] using h

/-- A turn in which no task is cut off but in flight. -/
lemma goesOn_supervised_of_turn {k : Nat} {P : ClassPlan} {c c' : ClassRun} {o' : Outside σ}
    {choice : Choice} {log : List Event} (hP : P ∈ request.plans findings) (hk : r.classes[k]? = some c)
    (hallowed : r.cutsInFlight choice = true) (h : P.Supervised options c log)
    (hturn : r.Turn b options k c choice c' o') :
    P.GoesOn (ClassPlan.Supervised options) c r.outside log c' o' := by
  have hcourse := Job.course_fate (¬ P.Distinct options) options
  have hplaced := Keeps.wellPlaced hP
  obtain ⟨reached, tail, hlinked, hlogged⟩ := h.follows.logged
  cases hturn with
  | task hadvance =>
      obtain ⟨hrunning, hgoes, more, hevents, hwithin, hfollows⟩ :=
        h.follows.task hcourse hplaced hadvance
      obtain ⟨reached', hstep, hstage⟩ := ClassPlan.taskStep_of_advance hlinked.stage hadvance
      exact ⟨hrunning, hgoes, more, hevents, hwithin, hfollows,
        fun hdistinct => (h.booked hdistinct).task hlinked hstep hstage⟩
  | scenario hadvance =>
      obtain ⟨job, phase, phase', scope', hl, hstep, rfl⟩ :=
        ClassRun.scenarioStep_of_advance hadvance
      have hkept : ¬ P.Distinct options ∨ ∀ reason, phase = .rescuing reason →
          (c.scope.leave job.node.id .failure).1 = true := by
        by_cases hdistinct : P.Distinct options
        · refine Or.inr fun reason hphase => ?_
          have hheld := (h.booked hdistinct).flying hl (by rw [hphase]; rfl)
          simpa [ClassScope.leave] using hheld
        · exact Or.inl hdistinct
      obtain ⟨hrunning, hgoes, more, hevents, hwithin, hfollows⟩ :=
        h.follows.scenario hcourse hplaced hl (.step hstep) (Job.Fate.passes_step hstep hkept)
      refine ⟨hrunning, hgoes, more, hevents, hwithin, hfollows, fun hdistinct => ?_⟩
      have hapart := hdistinct.apart hlinked h.follows.balanced h.follows.capacity
      exact (h.booked hdistinct).scenario hlinked hapart hl hstep.isLaunched.1
        (hstep.books (hlogged.stages hl))
  | cut hcrash =>
      obtain ⟨job, phase, hl, hexposed, rfl⟩ := ClassRun.exposed_of_crash hcrash
      have hflying := isInFlight_of_cutsInFlight hallowed hk hl
      obtain ⟨hrunning, hgoes, more, hevents, hwithin, hfollows⟩ :=
        h.follows.scenario (b := b) hcourse hplaced hl (.cut _ hexposed)
          (Job.Fate.passes_cut _ hexposed (Or.inr (Phase.ne_telling_of_isInFlight hflying)))
      refine ⟨hrunning, hgoes, more, hevents, hwithin, hfollows, fun hdistinct => ?_⟩
      have hapart := hdistinct.apart hlinked h.follows.balanced h.follows.capacity
      exact (h.booked hdistinct).scenario hlinked hapart hl (Phase.isLaunched_of_isInFlight hflying)
        (.kept rfl fun _ => hflying)

lemma supervised_begin {P : ClassPlan} {c : ClassRun} {log : List Event}
    (h : P.Supervised options c log) : P.Supervised options c.begin log :=
  ⟨h.follows.begin, fun hdistinct => (h.booked hdistinct).begin h.follows.program⟩

/-- **Every run** in which no task is cut off but in flight keeps this of its classes. -/
theorem keeps_supervised_of_proceeds {s : σ} {choices : List Choice}
    (hproceeds : Proceeds (fun r choice => r.cutsInFlight choice = true) b options
      (planned findings options request s) choices r) :
    r.Keeps (ClassPlan.Supervised options) findings options request := by
  refine hproceeds.induct (keeps_planned findings options request s fun i node =>
    ⟨?_, fun _ => ?_⟩) ?_ fun h _ => h.consult _
  · exact ClassPlan.followsBy_planned (Job.course_fate ..) (findings i) options
      request.skip.contains i node
  · exact ClassPlan.booked_planned (findings i) options request.skip.contains i node
  · intro r r' choice h hallowed hstep
    refine h.step (isMild_of_cutsInFlight hallowed) hstep supervised_begin fun hP hk hinv hturn => ?_
    exact goesOn_supervised_of_turn (List.mem_of_getElem? hP) hk hallowed hinv hturn

/-- What is cut off in flight is in flight by the plan. -/
lemma foreseen_cutsInFlight {choice : Choice} (h : r.cutsInFlight choice = true) :
    (r.foreseen findings).cutsInFlight choice = true := by
  cases choice with
  | advance actor => rfl
  | crash actor reason =>
      cases actor with
      | scenarioTask k l =>
          obtain ⟨c, hk, hphase⟩ := (Option.any_eq_true _ _).mp h
          obtain ⟨phase, hl, hflying⟩ := (Option.any_eq_true _ _).mp hphase
          have hl' : (c.foreseen findings).phaseAt l = some phase := by
            rw [ClassRun.phaseAt] at hl ⊢
            rcases ClassRun.foreseen_getElem? findings c l with hsame | ⟨hnone, -⟩
            · rw [hsame, hl]
            · rw [hnone] at hl
              exact absurd hl (by simp)
          rw [cutsInFlight, foreseen_getElem? findings hk, Option.any_some, hl', Option.any_some]
          exact hflying
      | _ => exact absurd h Bool.false_ne_true

/-- A run in which no task is cut off but in flight goes by its plan. -/
lemma ReachesBy.proceeds_in_flight {s : σ} {choices : List Choice}
    (hreaches : ReachesBy (fun r choice => r.cutsInFlight choice = true) b options
      (ofRequest options request s) choices r)
    (hagree : findings.Agree ((ofRequest options request s).lookups b options choices)) :
    Proceeds (fun r choice => r.cutsInFlight choice = true) b options
      (planned findings options request s) choices (r.foreseen findings) :=
  proceeds_of_reaches hreaches hagree fun hallowed =>
    ⟨isMild_of_cutsInFlight hallowed, foreseen_cutsInFlight hallowed⟩

end Run

end ScenarioRunner
