import ScenarioRunner.Proofs.Engine.ClassTask
import ScenarioRunner.Proofs.Engine.Lists
import ScenarioRunner.Proofs.Engine.ScenarioStep

/-!
# The accounts of a class

What the gate and the countdown of a class have to do with the phases of its scenarios.

* `ClassPlan.Linked`: the phases of the scenarios follow the task of the class.  The jobs that have
  not been given a permit wait, and those that have been launched are on their own.
* `ClassRun.Balanced`: every permit is free or held by one scenario, and the countdown is the number
  of scenarios that are not done.
* `ClassPlan.Linked.task` and `ClassPlan.Linked.scenario`, `ClassPlan.Linked.balanced_task` and
  `ClassRun.Balanced.scenario` keep both from step to step, also where the task of a scenario is cut
  off.
* `ClassPlan.Linked.cases_of_stuck`: a class in which no task can go on is finished with all of its
  scenarios, unless it has not started or could not make its gate.
-/

namespace ScenarioRunner

/-! ## Scenarios in a list -/

namespace ClassRun

variable {c : ClassRun} {k l : Nat}

lemma getElem?_changePhase (c : ClassRun) (k : Nat) (f : Phase → Phase) (l : Nat) :
    (c.changePhase k f).scenarios[l]? =
      (c.scenarios[l]?).map fun s => if k = l then { s with phase := f s.phase } else s := by
  rw [changePhase, List.getElem?_modify]
  split <;> simp

lemma getElem?_changePhase_self {job : Job} {phase : Phase}
    (hk : c.scenarios[k]? = some ⟨job, phase⟩) (f : Phase → Phase) :
    (c.changePhase k f).scenarios[k]? = some ⟨job, f phase⟩ := by
  rw [getElem?_changePhase, hk, Option.map_some, if_pos rfl]

lemma getElem?_changePhase_ne (c : ClassRun) (hne : l ≠ k) (f : Phase → Phase) :
    (c.changePhase k f).scenarios[l]? = c.scenarios[l]? := by
  simp [getElem?_changePhase, Ne.symm hne]

/-- A scenario behind a change of one of them is that one, or stands as before. -/
lemma eq_or_of_changePhase {job : Job} {phase : Phase} {f : Phase → Phase} {s : ScenarioRun}
    (hk : c.scenarios[k]? = some ⟨job, phase⟩) (hl : (c.changePhase k f).scenarios[l]? = some s) :
    (l = k ∧ s = ⟨job, f phase⟩) ∨ l ≠ k ∧ c.scenarios[l]? = some s := by
  by_cases hlk : l = k
  · subst hlk
    exact Or.inl ⟨rfl, (Option.some.inj ((getElem?_changePhase_self hk f).symm.trans hl)).symm⟩
  · exact Or.inr ⟨hlk, (getElem?_changePhase_ne c hlk f).symm.trans hl⟩

lemma map_job_changePhase (c : ClassRun) (k : Nat) (f : Phase → Phase) :
    (c.changePhase k f).scenarios.map ScenarioRun.job = c.scenarios.map ScenarioRun.job := by
  refine List.ext_getElem? fun l => ?_
  rw [List.getElem?_map, List.getElem?_map, getElem?_changePhase, Option.map_map]
  congr 1
  funext s
  dsimp only [Function.comp_apply]
  split <;> rfl

lemma scenarios_changePhase_self {job : Job} {phase : Phase}
    (hk : c.scenarios[k]? = some ⟨job, phase⟩) :
    (c.changePhase k fun _ => phase).scenarios = c.scenarios := by
  refine List.ext_getElem? fun l => ?_
  by_cases hlk : l = k
  · subst hlk
    rw [getElem?_changePhase_self hk, hk]
  · rw [getElem?_changePhase_ne c hlk]

/-- The number of permits that scenarios hold. -/
def held (c : ClassRun) : Nat :=
  total (fun s => s.phase.holdsPermit.toNat) c.scenarios

/-- The number of scenarios with a task that are not done. -/
def pending (c : ClassRun) : Nat :=
  total (fun s => s.phase.isCounted.toNat) c.scenarios

lemma held_changePhase {job : Job} {phase : Phase} (f : Phase → Phase)
    (hk : c.scenarios[k]? = some ⟨job, phase⟩) :
    (c.changePhase k f).held + phase.holdsPermit.toNat =
      c.held + (f phase).holdsPermit.toNat :=
  total_modify (fun s : ScenarioRun => s.phase.holdsPermit.toNat)
    (fun s => { s with phase := f s.phase }) hk

lemma pending_changePhase {job : Job} {phase : Phase} (f : Phase → Phase)
    (hk : c.scenarios[k]? = some ⟨job, phase⟩) :
    (c.changePhase k f).pending + phase.isCounted.toNat =
      c.pending + (f phase).isCounted.toNat :=
  total_modify (fun s : ScenarioRun => s.phase.isCounted.toNat)
    (fun s => { s with phase := f s.phase }) hk

end ClassRun

lemma Phase.eq_granted {phase : Phase} (h : phase ≠ .waiting) (h' : phase.isLaunched ≠ true) :
    phase = .granted := by
  cases phase with
  | granted => rfl
  | waiting => exact absurd rfl h
  | _ => exact absurd rfl h'

namespace ClassPlan

variable {σ : Type} {P : ClassPlan} {c c' : ClassRun} {o o' : Outside σ}
  {reached reached' : Reached}

/-- The task of the class leaves scenarios alone once they are launched. -/
lemma TaskStep.getElem?_launched (hstep : P.TaskStep c o reached c' o' reached') {l : Nat} {job : Job}
    {phase : Phase} (hl : c.scenarios[l]? = some ⟨job, phase⟩) (hlaunched : phase.isLaunched = true) :
    c'.scenarios[l]? = some ⟨job, phase⟩ := by
  have hgrant : phase.grant = phase := by
    cases phase <;> first | rfl | exact absurd hlaunched Bool.false_ne_true
  have hstart : phase.start = phase := by
    cases phase <;> first | rfl | exact absurd hlaunched Bool.false_ne_true
  have hchange : ∀ (d : ClassRun) (k : Nat) (f : Phase → Phase), d.scenarios = c.scenarios →
      f phase = phase → (d.changePhase k f).scenarios[l]? = some ⟨job, phase⟩ := by
    intro d k f hd hf
    rw [← hd] at hl
    by_cases hlk : l = k
    · subst hlk
      rw [ClassRun.getElem?_changePhase_self hl, hf]
    · rw [ClassRun.getElem?_changePhase_ne d hlk, hl]
  cases hstep with
  | granted => exact hchange _ _ _ rfl hgrant
  | launched => exact hchange _ _ _ rfl hstart
  | _ => exact hl

/-! ## Phases follow the task of the class -/

/-- The phases of the scenarios follow the task of the class. -/
structure Linked (P : ClassPlan) (c : ClassRun) (reached : Reached) : Prop where
  stage : P.Stage c.phase reached
  jobs : c.scenarios.map ScenarioRun.job = P.jobs
  granted : ∀ {l s}, c.scenarios[l]? = some s → (s.phase = .waiting ↔ reached.granted ≤ l)
  launched : ∀ {l s}, c.scenarios[l]? = some s →
    (s.phase.isLaunched = true ↔ l < reached.launched)

namespace Linked

lemma exists_scenario (h : P.Linked c reached) {l : Nat} {job : Job}
    (hl : P.jobs[l]? = some job) : ∃ phase, c.scenarios[l]? = some ⟨job, phase⟩ := by
  rw [← h.jobs, List.getElem?_map, Option.map_eq_some_iff] at hl
  obtain ⟨⟨job', phase⟩, hs, rfl⟩ := hl
  exact ⟨phase, hs⟩

lemma job_eq (h : P.Linked c reached) {l : Nat} {s : ScenarioRun}
    (hl : c.scenarios[l]? = some s) : P.jobs[l]? = some s.job := by
  rw [← h.jobs, List.getElem?_map, hl]
  rfl

lemma of_phases (h : P.Linked c reached) (hstage : P.Stage c'.phase reached')
    (hscenarios : c'.scenarios = c.scenarios) (hgranted : reached'.granted = reached.granted)
    (hlaunched : reached'.launched = reached.launched) : P.Linked c' reached' where
  stage := hstage
  jobs := by rw [hscenarios, h.jobs]
  granted := by
    intro l s hl
    rw [hscenarios] at hl
    rw [hgranted]
    exact h.granted hl
  launched := by
    intro l s hl
    rw [hscenarios] at hl
    rw [hlaunched]
    exact h.launched hl

lemma begin (h : P.Linked c reached) (hprogram : c.program = P.prelude ++ P.ending 0) :
    P.Linked c.begin reached := by
  unfold ClassRun.begin
  split
  · next hphase =>
    have hstage := h.stage
    rw [hphase] at hstage
    cases hstage with
    | waiting =>
        refine h.of_phases ?_ rfl rfl rfl
        rw [hprogram]
        exact @stage_of_prelude P [] P.prelude rfl
  · exact h

/-- The phase of the scenario that is given a permit. -/
lemma phase_granted (h : P.Linked c reached) {job : Job} {phase : Phase}
    (hk : c.scenarios[reached.granted]? = some ⟨job, phase⟩) : phase = .waiting :=
  (h.granted hk).mpr (Nat.le_refl _)

/-- The phase of the scenario whose task is launched. -/
lemma phase_launched (h : P.Linked c reached) {job : Job} {phase : Phase}
    (hk : c.scenarios[reached.launched]? = some ⟨job, phase⟩)
    (hlt : reached.launched < reached.granted) : phase = .granted := by
  refine Phase.eq_granted (fun hwaiting => ?_) (fun hlaunched => ?_)
  · have := (h.granted hk).mp hwaiting
    omega
  · have := (h.launched hk).mp hlaunched
    omega

lemma of_changePhase (h : P.Linked c reached) {k : Nat} {job : Job} {phase : Phase}
    {f : Phase → Phase} (hk : c.scenarios[k]? = some ⟨job, phase⟩)
    (hscenarios : c'.scenarios = (c.changePhase k f).scenarios)
    (hstage : P.Stage c'.phase reached')
    (hgranted : ∀ l, l ≠ k → (reached'.granted ≤ l ↔ reached.granted ≤ l))
    (hlaunched : ∀ l, l ≠ k → (l < reached'.launched ↔ l < reached.launched))
    (hwaiting : f phase = .waiting ↔ reached'.granted ≤ k)
    (hstarted : (f phase).isLaunched = true ↔ k < reached'.launched) : P.Linked c' reached' where
  stage := hstage
  jobs := by rw [hscenarios, ClassRun.map_job_changePhase, h.jobs]
  granted := by
    intro l s hl
    rw [hscenarios] at hl
    rcases ClassRun.eq_or_of_changePhase hk hl with ⟨rfl, rfl⟩ | ⟨hlk, hs⟩
    · exact hwaiting
    · rw [h.granted hs, hgranted l hlk]
  launched := by
    intro l s hl
    rw [hscenarios] at hl
    rcases ClassRun.eq_or_of_changePhase hk hl with ⟨rfl, rfl⟩ | ⟨hlk, hs⟩
    · exact hstarted
    · rw [h.launched hs, hlaunched l hlk]

/-- A step of the task of the class. -/
theorem task (h : P.Linked c reached) (hstep : P.TaskStep c o reached c' o' reached')
    (hstage : P.Stage c'.phase reached') : P.Linked c' reached' := by
  cases hstep with
  | @granted k job scope hjob hphase hacquire =>
      obtain ⟨phase, hk⟩ := h.exists_scenario hjob
      obtain rfl : phase = .waiting := h.phase_granted hk
      refine h.of_changePhase hk rfl hstage (fun l hl => ?_) (fun l _ => Iff.rfl) ?_ ?_
      · dsimp only
        omega
      · simp [Phase.grant]
      · simp [Phase.grant, Phase.isLaunched]
  | @launched k job hjob hphase =>
      obtain ⟨phase, hk⟩ := h.exists_scenario hjob
      obtain rfl : phase = .granted := h.phase_launched hk (Nat.lt_succ_self k)
      refine h.of_changePhase hk rfl hstage (fun l _ => Iff.rfl) (fun l hl => ?_) ?_ ?_
      · dsimp only
        omega
      · simp [Phase.start]
      · simp [Phase.start, Phase.isLaunched]
  | _ => exact h.of_phases hstage rfl rfl rfl

/-- A turn of the task of a scenario. -/
theorem scenario (h : P.Linked c reached) {b : Backend σ} {options : RunOptions} {l : Nat}
    {job : Job} {phase phase' : Phase} {scope' : ClassScope}
    (hl : c.scenarios[l]? = some ⟨job, phase⟩)
    (hturn : ClassRun.ScenarioTurn b options job phase c.scope o phase' scope' o') :
    P.Linked ({ c with scope := scope' }.setPhase l phase') reached := by
  obtain ⟨hlaunched, hlaunched'⟩ := hturn.isLaunched
  have hne : ∀ {p : Phase}, p.isLaunched = true → p ≠ .waiting := by
    rintro p hp rfl
    exact absurd hp (by simp [Phase.isLaunched])
  refine h.of_changePhase (f := fun _ => phase') hl rfl h.stage (fun _ _ => Iff.rfl)
    (fun _ _ => Iff.rfl) ?_ ?_
  · rw [← h.granted hl]
    exact iff_of_false (hne hlaunched') (hne hlaunched)
  · rw [← h.launched hl]
    exact iff_of_true hlaunched' hlaunched

end Linked

end ClassPlan

/-! ## The balance -/

/-- The action takes a scenario off the countdown. -/
def ClassAction.isCountDown : ClassAction → Bool
  | .countDown => true
  | _ => false

namespace ClassRun

/-- The number of scenarios that the task of the class itself has to take off the countdown. -/
def owed (c : ClassRun) : Nat :=
  match c.phase with
  | .waiting => c.program.countP ClassAction.isCountDown
  | .running actions => actions.countP ClassAction.isCountDown
  | _ => 0

/-- The class has waited for its scenarios. -/
def HasWaited (c : ClassRun) : Prop :=
  c.phase = .running [.close] ∨ ∃ verdict, c.phase = .finished verdict

/-- **The accounts of a class**: every permit is free or held, and the countdown is the number of
scenarios that are not done. -/
structure Balanced (c : ClassRun) : Prop where
  permits : c.scope.free + c.held = c.scope.capacity
  remaining : c.phase ≠ .crashed → c.scope.remaining = c.pending + c.owed
  waited : c.HasWaited → c.pending = 0

lemma ScenarioStep.permits {σ : Type} {b : Backend σ} {options : RunOptions} {job : Job}
    {phase phase' : Phase} {scope scope' : ClassScope} {o o' : Outside σ}
    (h : ScenarioStep b options job phase scope o phase' scope' o') :
    scope'.free + phase'.holdsPermit.toNat = scope.free + phase.holdsPermit.toNat := by
  cases h with
  | @acted _ _ action rest =>
      rw [(ClassScope.behind_permits scope job action).2.1]
      rfl
  | rescued =>
      split <;> rfl
  | _ => rfl

lemma ScenarioStep.remaining {σ : Type} {b : Backend σ} {options : RunOptions} {job : Job}
    {phase phase' : Phase} {scope scope' : ClassScope} {o o' : Outside σ}
    (h : ScenarioStep b options job phase scope o phase' scope' o') (hpos : 0 < scope.remaining) :
    scope'.remaining + phase.isCounted.toNat = scope.remaining + phase'.isCounted.toNat := by
  cases h with
  | @acted _ _ action rest =>
      rw [(ClassScope.behind_permits scope job action).2.2]
      rfl
  | rescued =>
      split <;> rfl
  | counted =>
      simp only [ClassScope.countDown, Phase.isCounted, Bool.toNat_true, Bool.toNat_false]
      omega
  | _ => rfl

lemma ScenarioTurn.permits {σ : Type} {b : Backend σ} {options : RunOptions} {job : Job}
    {phase phase' : Phase} {scope scope' : ClassScope} {o o' : Outside σ}
    (h : ScenarioTurn b options job phase scope o phase' scope' o') :
    scope'.free + phase'.holdsPermit.toNat = scope.free + phase.holdsPermit.toNat := by
  cases h with
  | step hstep => exact hstep.permits
  | cut reason hexposed =>
      obtain ⟨hholds, hholds', -, -⟩ := permits_of_isExposed hexposed reason
      rw [hholds, hholds']

lemma ScenarioTurn.remaining {σ : Type} {b : Backend σ} {options : RunOptions} {job : Job}
    {phase phase' : Phase} {scope scope' : ClassScope} {o o' : Outside σ}
    (h : ScenarioTurn b options job phase scope o phase' scope' o') (hpos : 0 < scope.remaining) :
    scope'.remaining + phase.isCounted.toNat = scope.remaining + phase'.isCounted.toNat := by
  cases h with
  | step hstep => exact hstep.remaining hpos
  | cut reason hexposed =>
      obtain ⟨-, -, hcounted, hcounted'⟩ := permits_of_isExposed hexposed reason
      rw [hcounted, hcounted']

end ClassRun

namespace ClassPlan

variable {σ : Type} {P : ClassPlan} {c c' : ClassRun} {o o' : Outside σ}
  {reached reached' : Reached}

/-- The starts of jobs record no verdict and take nothing off the countdown. -/
lemma countP_ending_of {p : ClassAction → Bool} (P : ClassPlan) (k : Nat)
    (hp : ∀ action, p action = true → (∃ v, action = .record v) ∨ action = .countDown) :
    (P.ending k).countP p = 0 := by
  have hstarts : ∀ (k : Nat) (jobs : List Job), ∀ action ∈ ClassRun.startAll k jobs,
      ¬ ((∃ v, action = .record v) ∨ action = .countDown) := by
    intro k jobs
    induction jobs generalizing k with
    | nil => simp [ClassRun.startAll]
    | cons job jobs ih =>
        intro action haction
        rcases List.mem_append.mp haction with haction | haction
        · simp only [List.mem_cons, List.not_mem_nil, or_false] at haction
          rcases haction with rfl | rfl | rfl | rfl <;> simp
        · exact ih _ action haction
  rw [List.countP_eq_zero]
  intro action haction hcounted
  rcases List.mem_append.mp haction with haction | haction
  · exact hstarts _ _ action haction (hp action hcounted)
  · have := hp action hcounted
    simp only [List.mem_cons, List.not_mem_nil, or_false] at haction
    rcases haction with rfl | rfl <;> simp at this

lemma countP_ending (P : ClassPlan) (k : Nat) :
    (P.ending k).countP ClassAction.isCountDown = 0 :=
  countP_ending_of P k fun action haction => by
    cases action <;> simp_all [ClassAction.isCountDown]

lemma append_ending_ne (P : ClassPlan) (actions : List ClassAction) (k : Nat) :
    actions ++ P.ending k ≠ [.close] := by
  intro h
  have := congrArg List.length h
  simp only [ending, List.length_append, List.length_cons, List.length_nil] at this
  omega

lemma length_candidates (found : Candidate → Except Error Environment) (group : Nat)
    (candidates : List Candidate) :
    (jobsOf found group candidates).length + (candidates.filterMap (failing? found)).length =
      candidates.length := by
  induction candidates with
  | nil => rfl
  | cons c candidates ih =>
      rw [jobsOf] at ih ⊢
      rw [List.filterMap_cons, List.filterMap_cons, failing?, List.length_cons, ← ih]
      cases found c with
      | ok environment =>
          dsimp only
          rw [List.length_cons]
          omega
      | error e =>
          dsimp only
          rw [List.length_cons]
          omega

/-- What the prelude does once for each scenario that fails. -/
lemma countP_prelude_of {p : ClassAction → Bool} (P : ClassPlan) (hemit : ∀ e, p (.emit e) = false)
    (hgate : p .openGate = false)
    (honce : ∀ c e, (ClassRun.failActions P.place c e).countP p = 1) :
    P.prelude.countP p = P.failed.length := by
  have hskipped : ∀ candidates : List Candidate,
      (candidates.map fun c => ClassAction.emit (c.event P.place (.skipped skipReason))).countP p =
        0 := by
    intro candidates
    rw [List.countP_map]
    exact List.countP_eq_zero.mpr fun c _ => by simp [hemit]
  have hfailed : ∀ failed : List (Candidate × Error),
      (failed.flatMap fun f => ClassRun.failActions P.place f.1 f.2).countP p = failed.length := by
    intro failed
    induction failed with
    | nil => rfl
    | cons f failed ih =>
        rw [List.flatMap_cons, List.countP_append, ih, honce, List.length_cons, Nat.add_comm]
  rw [prelude, List.countP_append, List.countP_append, List.countP_append, hskipped, hfailed]
  simp [hemit, hgate]

lemma countP_prelude (P : ClassPlan) :
    P.prelude.countP ClassAction.isCountDown = P.failed.length :=
  countP_prelude_of P (fun _ => rfl) rfl fun _ _ => rfl

section Beginning

variable (found : Candidate → Except Error Environment) (options : RunOptions)
  (isSkipped : NodeId → Bool) (group : Nat) (node : Node)

lemma phase_planned {l : Nat} {s : ScenarioRun}
    (hl : (planned found options isSkipped group node).scenarios[l]? = some s) :
    s.phase = .waiting := by
  rw [planned, List.getElem?_map, Option.map_eq_some_iff] at hl
  obtain ⟨job, -, rfl⟩ := hl
  rfl

/-- At first every scenario waits. -/
theorem linked_planned :
    (ofNode found isSkipped group node).Linked (planned found options isSkipped group node)
      (.before []) where
  stage := .waiting
  jobs := by
    rw [planned, List.map_map]
    exact List.map_id _
  granted := fun hl => iff_of_true (phase_planned found options isSkipped group node hl)
    (Nat.zero_le _)
  launched := by
    intro l s hl
    rw [phase_planned found options isSkipped group node hl]
    exact iff_of_false Bool.false_ne_true (Nat.not_lt_zero l)

/-- At first every permit is free, and no scenario is done. -/
theorem balanced_planned : (planned found options isSkipped group node).Balanced where
  permits := by
    have hheld : (planned found options isSkipped group node).held = 0 := by
      rw [ClassRun.held, total_const (n := 0), Nat.mul_zero]
      intro s hs
      obtain ⟨l, hl⟩ := List.getElem?_of_mem hs
      rw [phase_planned found options isSkipped group node hl]
      rfl
    rw [hheld]
    rfl
  remaining := by
    intro _
    have hpending : (planned found options isSkipped group node).pending =
        (ofNode found isSkipped group node).jobs.length := by
      have hlength : (planned found options isSkipped group node).scenarios.length =
          (ofNode found isSkipped group node).jobs.length := by
        rw [← (linked_planned found options isSkipped group node).jobs, List.length_map]
      rw [ClassRun.pending, total_const (n := 1), hlength, Nat.mul_one]
      intro s hs
      obtain ⟨l, hl⟩ := List.getElem?_of_mem hs
      rw [phase_planned found options isSkipped group node hl]
      rfl
    have howed : (planned found options isSkipped group node).owed =
        (ofNode found isSkipped group node).failed.length := by
      show (planned found options isSkipped group node).program.countP _ = _
      rw [planned, List.countP_append, countP_prelude, countP_ending, Nat.add_zero]
    rw [hpending, howed]
    exact (length_candidates found group (runnable isSkipped node)).symm
  waited := by
    rintro (hclose | ⟨verdict, hfinished⟩)
    · exact absurd hclose (by simp [planned, ClassRun.ofNode])
    · exact absurd hfinished (by simp [planned, ClassRun.ofNode])

end Beginning

/-- A class whose permits and scenarios are as before, which does not go on to its end. -/
lemma balanced_of_running {actions : List ClassAction}
    (hphase : c'.phase = .running actions) (hne : actions ≠ [.close])
    (hpermits : c'.scope.free + c'.held = c'.scope.capacity)
    (hremaining : c'.scope.remaining = c'.pending + actions.countP ClassAction.isCountDown) :
    c'.Balanced where
  permits := hpermits
  remaining := by
    intro _
    rw [ClassRun.owed, hphase]
    exact hremaining
  waited := by
    rintro (hclose | ⟨verdict, hfinished⟩)
    · rw [hphase] at hclose
      exact absurd (ClassPhase.running.inj hclose) hne
    · rw [hphase] at hfinished
      exact absurd hfinished (by simp)

/-- **A step of the task of the class** keeps the balance. -/
theorem Linked.balanced_task (hlinked : P.Linked c reached) (h : c.Balanced)
    (hstep : P.TaskStep c o reached c' o' reached') : c'.Balanced := by
  have hpermits := h.permits
  cases hstep with
  | @prepared done todo action hplan hphase hgate =>
      have hremaining := h.remaining (by simp [hphase])
      simp only [ClassRun.owed, hphase, List.countP_cons] at hremaining
      refine balanced_of_running rfl (append_ending_ne P todo 0) ?_ ?_
      · cases action <;> exact hpermits
      · show (c.scope.prepared action).remaining = c.pending + _
        cases action with
        | countDown =>
            simp only [ClassAction.isCountDown, if_true] at hremaining
            simp only [ClassScope.prepared, ClassScope.countDown]
            omega
        | _ => exact hremaining
  | overloaded hplan hphase hgate =>
      refine ⟨hpermits, fun hne => absurd rfl hne, ?_⟩
      rintro (hclose | ⟨verdict, hfinished⟩)
      · exact absurd hclose (by simp)
      · exact absurd hfinished (by simp)
  | @granted k job scope hjob hphase hacquire =>
      obtain ⟨phase, hk⟩ := hlinked.exists_scenario hjob
      obtain rfl : phase = .waiting := hlinked.phase_granted hk
      have hremaining := h.remaining (by simp [hphase])
      simp only [ClassRun.owed, hphase, countP_ending] at hremaining
      have hheld := ClassRun.held_changePhase .grant hk
      have hpending := ClassRun.pending_changePhase .grant hk
      have hscope := ClassScope.of_acquire? hacquire
      refine balanced_of_running rfl ?_ ?_ ?_
      · simp
      · show scope.free + (c.changePhase k .grant).held = scope.capacity
        simp only [Phase.grant, Phase.holdsPermit, Bool.toNat_true, Bool.toNat_false] at hheld
        omega
      · show scope.remaining = (c.changePhase k .grant).pending + _
        simp only [Phase.grant, Phase.isCounted] at hpending
        simp only [List.countP_cons, ClassAction.isCountDown, countP_ending, Bool.false_eq_true,
          if_false]
        omega
  | begun hjob hphase =>
      have hremaining := h.remaining (by simp [hphase])
      simp only [ClassRun.owed, hphase] at hremaining
      exact balanced_of_running rfl (by simp) hpermits hremaining
  | @entered k job hjob hphase =>
      have hremaining := h.remaining (by simp [hphase])
      simp only [ClassRun.owed, hphase] at hremaining
      have hscope := c.scope.enter_permits job.node.id
      refine balanced_of_running rfl (by simp) ?_ ?_
      · show (c.scope.enter job.node.id).free + c.held = (c.scope.enter job.node.id).capacity
        omega
      · show (c.scope.enter job.node.id).remaining = c.pending + _
        rw [hscope.2.2]
        exact hremaining
  | @launched k job hjob hphase =>
      obtain ⟨phase, hk⟩ := hlinked.exists_scenario hjob
      obtain rfl : phase = .granted := hlinked.phase_launched hk (Nat.lt_succ_self k)
      have hremaining := h.remaining (by simp [hphase])
      simp only [ClassRun.owed, hphase, List.countP_cons] at hremaining
      have hheld := ClassRun.held_changePhase .start hk
      have hpending := ClassRun.pending_changePhase .start hk
      refine balanced_of_running rfl (append_ending_ne P [] (k + 1)) ?_ ?_
      · show c.scope.free + (c.changePhase k .start).held = c.scope.capacity
        simp only [Phase.start, Phase.holdsPermit] at hheld
        omega
      · show c.scope.remaining = (c.changePhase k .start).pending + _
        simp only [Phase.start, Phase.isCounted] at hpending
        rw [Nat.add_right_cancel hpending]
        exact hremaining
  | awaited hphase hdone =>
      have hremaining := h.remaining (by simp [hphase])
      have hzero : c.scope.remaining = 0 := by simpa [ClassScope.isDone] using hdone
      have hpending : c.pending = 0 := by omega
      refine ⟨hpermits, fun _ => ?_, fun _ => hpending⟩
      show c.scope.remaining = c.pending + 0
      omega
  | closed hphase =>
      have hremaining := h.remaining (by simp [hphase])
      have hpending : c.pending = 0 := h.waited (Or.inl hphase)
      simp only [ClassRun.owed, hphase] at hremaining
      exact ⟨hpermits, fun _ => hremaining, fun _ => hpending⟩

end ClassPlan

namespace ClassRun

variable {σ : Type} {c : ClassRun} {o o' : Outside σ}

lemma Balanced.begin (h : c.Balanced) (hprogram : c.program ≠ [.close]) : c.begin.Balanced := by
  unfold ClassRun.begin
  split
  · next hphase =>
    have hremaining := h.remaining (by simp [hphase])
    simp only [owed, hphase] at hremaining
    exact ClassPlan.balanced_of_running rfl hprogram h.permits hremaining
  · exact h

/-- A scenario that is on the countdown is not done. -/
lemma pending_pos {l : Nat} {job : Job} {phase : Phase} (hl : c.scenarios[l]? = some ⟨job, phase⟩)
    (hcounted : phase.isCounted = true) : 0 < c.pending := by
  have hle := le_total (fun s : ScenarioRun => s.phase.isCounted.toNat) hl
  simp only [hcounted, Bool.toNat_true] at hle
  exact hle

/-- If no scenario is pending, all of them are done. -/
lemma done_of_pending_eq_zero (h : c.pending = 0) {l : Nat} {s : ScenarioRun}
    (hl : c.scenarios[l]? = some s) : s.phase = .done := by
  have hcounted : s.phase.isCounted = false := by
    rw [Bool.eq_false_iff]
    intro hcounted
    exact absurd h (Nat.ne_of_gt (pending_pos hl hcounted))
  cases hs : s.phase <;> simp_all [Phase.isCounted]

/-- **A turn of the task of a scenario** keeps the balance. -/
theorem Balanced.scenario (h : c.Balanced) {b : Backend σ} {options : RunOptions} {l : Nat}
    {job : Job} {phase phase' : Phase} {scope' : ClassScope}
    (hl : c.scenarios[l]? = some ⟨job, phase⟩)
    (hturn : ScenarioTurn b options job phase c.scope o phase' scope' o') :
    ({ c with scope := scope' }.setPhase l phase').Balanced := by
  have hheld := held_changePhase (fun _ => phase') hl
  have hpending := pending_changePhase (fun _ => phase') hl
  have hpermits := hturn.permits
  have hcapacity := hturn.capacity_eq
  have hcounted := pending_pos hl hturn.isCounted
  refine ⟨?_, fun hne => ?_, fun hwaited => ?_⟩
  · show scope'.free + (c.changePhase l fun _ => phase').held = scope'.capacity
    have := h.permits
    omega
  · show scope'.remaining = (c.changePhase l fun _ => phase').pending + c.owed
    have hold := h.remaining hne
    have hremaining := hturn.remaining (by omega)
    omega
  · have : c.pending = 0 := h.waited hwaited
    omega

end ClassRun

namespace ClassPlan

variable {σ : Type} {P : ClassPlan} {c : ClassRun} {reached : Reached}

/-- **The task of a class goes on** from job to job, if no scenario that is on its own holds it up. -/
lemma Linked.advance_of_ready {k : Nat} (h : P.Linked c ⟨toldBy P.prelude, k, k, k⟩)
    (hbalanced : c.Balanced) (hcapacity : 0 < c.scope.capacity) (hk : k ≤ P.jobs.length)
    (hphase : c.phase = .running (P.ending k))
    (hdone : ∀ {l : Nat} {s : ScenarioRun}, c.scenarios[l]? = some s →
      s.phase.isLaunched = true → s.phase.isCounted = false) (b : Backend σ) (o : Outside σ) :
    c.advance? b o ≠ none := by
  intro htask
  rcases Nat.lt_or_ge k P.jobs.length with hlt | hge
  · -- all permits are held, by scenarios that have been launched
    rw [ClassRun.advance?, hphase, ending_of_getElem? (List.getElem?_eq_getElem hlt)] at htask
    have hfree : c.scope.free = 0 := by
      dsimp only [ClassRun.act] at htask
      rw [Option.map_eq_none_iff, ClassScope.acquire?] at htask
      split at htask
      · next hzero => exact hzero
      · exact absurd htask (by simp)
    have hheld : c.held ≠ 0 := by
      have := hbalanced.permits
      omega
    obtain ⟨l, s, hl, hholds⟩ := exists_of_total_ne_zero hheld
    have hgranted := h.granted hl
    have hlaunched := h.launched hl
    have hcounted := hdone hl
    dsimp only at hgranted hlaunched
    cases hs : s.phase with
    | waiting => simp [hs, Phase.holdsPermit] at hholds
    | granted =>
        simp only [hs, reduceCtorEq, false_iff, Nat.not_le] at hgranted
        simp [hs, Phase.isLaunched, hgranted] at hlaunched
    | done => simp [hs, Phase.holdsPermit] at hholds
    | _ => simp [hs, Phase.isLaunched, Phase.isCounted] at hcounted
  · -- the scenarios that are not done have all been launched
    obtain rfl : k = P.jobs.length := Nat.le_antisymm hk hge
    have hremaining := hbalanced.remaining (by simp [hphase])
    simp only [ClassRun.owed, hphase, countP_ending, Nat.add_zero] at hremaining
    rw [ending_of_length_le (Nat.le_refl _)] at hphase
    rw [ClassRun.advance?, hphase] at htask
    dsimp only [ClassRun.act] at htask
    have hpending : c.pending ≠ 0 := by
      intro hzero
      rw [if_pos (by simp [ClassScope.isDone, hremaining, hzero])] at htask
      exact absurd htask (by simp)
    obtain ⟨l, s, hl, hcounted⟩ := exists_of_total_ne_zero hpending
    have hlt : l < P.jobs.length := (List.getElem?_eq_some_iff.mp (h.job_eq hl)).1
    have := hdone hl ((h.launched hl).mpr hlt)
    simp [this] at hcounted

/-- **A class in which no task can go on** is finished with all of its scenarios, unless it has not
started or could not make its gate. -/
theorem Linked.cases_of_stuck (h : P.Linked c reached) (hbalanced : c.Balanced)
    (hcapacity : 0 < c.scope.capacity) {b : Backend σ} {options : RunOptions} {o : Outside σ}
    (htask : c.advance? b o = none) (hscenarios : ∀ l, c.advanceScenario? b options l o = none) :
    c.phase = .waiting ∨ c.phase = .crashed ∨
      (∃ verdict, c.phase = .finished verdict) ∧
        ∀ (l : Nat) (s : ScenarioRun), c.scenarios[l]? = some s → s.phase = .done := by
  have hdone : ∀ {l : Nat} {s : ScenarioRun}, c.scenarios[l]? = some s →
      s.phase.isLaunched = true → s.phase.isCounted = false := by
    intro l s hl hlaunched
    rw [Bool.eq_false_iff]
    intro hcounted
    have hsome : (c.advanceScenario? b options l o).isSome :=
      ClassRun.isSome_advanceScenario? o hl hlaunched hcounted
    rw [hscenarios l] at hsome
    exact absurd hsome (by simp)
  have hstage := h.stage
  generalize hphase : c.phase = phase at hstage
  cases hstage with
  | waiting => exact Or.inl rfl
  | crashed hplan => exact Or.inr (Or.inl rfl)
  | finished verdict =>
      refine Or.inr (Or.inr ⟨⟨verdict, rfl⟩, fun l s hl => ?_⟩)
      exact ClassRun.done_of_pending_eq_zero (hbalanced.waited (Or.inr ⟨verdict, hphase⟩)) hl
  | @preparing done todo action hplan =>
      have hmem : action ∈ P.prelude := by
        rw [hplan]
        simp
      rw [ClassRun.advance?, hphase] at htask
      rcases cases_of_mem_prelude hmem with ⟨e, rfl⟩ | rfl | ⟨v, rfl⟩ | rfl
      · exact absurd htask (by simp [ClassRun.act])
      · dsimp only [ClassRun.act] at htask
        split at htask
        · exact absurd htask (by simp)
        · exact absurd htask (by simp)
      · exact absurd htask (by simp [ClassRun.act])
      · exact absurd htask (by simp [ClassRun.act])
  | @ready k hk => exact absurd htask (h.advance_of_ready hbalanced hcapacity hk hphase hdone b o)
  | granted hjob =>
      rw [ClassRun.advance?, hphase] at htask
      exact absurd htask (by simp [ClassRun.act])
  | begun hjob =>
      rw [ClassRun.advance?, hphase] at htask
      exact absurd htask (by simp [ClassRun.act])
  | entered hjob =>
      rw [ClassRun.advance?, hphase] at htask
      exact absurd htask (by simp [ClassRun.act])
  | closing =>
      rw [ClassRun.advance?, hphase] at htask
      exact absurd htask (by simp [ClassRun.act])

end ClassPlan

end ScenarioRunner
