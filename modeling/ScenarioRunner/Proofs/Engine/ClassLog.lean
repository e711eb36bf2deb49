import ScenarioRunner.Proofs.Engine.Accounts

/-!
# What a class tells

The events at and below a class, in the order in which they are told, against its plan.

* `ClassPlan.Logged` is the invariant on the events: the prelude has told its part, and behind it
  comes the `tail`, in which each job has told what belongs to the phase of its task, and in which
  the jobs start in their order.  The end of the class comes last.
* `ClassPlan.FollowsBy` puts it together with the accounts of the class.
* `ClassPlan.followsBy_planned`, `ClassPlan.FollowsBy.begin`, `ClassPlan.FollowsBy.task` and
  `ClassPlan.FollowsBy.scenario`: a class follows its plan, at first and from turn to turn.
* `ClassPlan.Follows` is the case in which no task is cut off.

What belongs to the phase of a task is given by a course of its job, so that the same invariant serves
where tasks are cut off.
-/

namespace ScenarioRunner

namespace Job

lemma place_eq_of_covers {job job' : Job} {e : Event} (h : job.Covers e) (h' : job'.Covers e) :
    job.place = job'.place := by
  unfold Covers Subject.isWithinScenario at h h'
  cases hsubject : e.subject <;> simp_all

lemma Covers.isWithinClass {job : Job} {e : Event} (h : job.Covers e) :
    e.subject.isWithinClass job.group = true := by
  unfold Covers Subject.isWithinScenario at h
  unfold Subject.isWithinClass
  cases hsubject : e.subject <;> simp_all

end Job

/-- The task of the class has started and is not over. -/
def ClassRun.IsRunning (c : ClassRun) : Prop :=
  ∃ actions, c.phase = .running actions

namespace ClassPlan

variable {σ : Type} {b : Backend σ} {options : RunOptions} {P : ClassPlan} {c c' : ClassRun}
  {o o' : Outside σ} {reached reached' : Reached} {tail log : List Event}
  {stage : Job → Phase → List Event → Prop}

/-- The jobs of a plan belong to its class and stand at different places. -/
structure WellPlaced (P : ClassPlan) : Prop where
  groups : ∀ job ∈ P.jobs, job.group = P.place
  places : P.jobs.Pairwise fun job job' => job.place < job'.place

lemma wellPlaced_ofNode (found : Candidate → Except Error Environment) (isSkipped : NodeId → Bool)
    (group : Nat) (node : Node) : (ofNode found isSkipped group node).WellPlaced where
  groups := by
    intro job hjob
    obtain ⟨c, environment, -, -, -, rfl⟩ := jobs_iff.mp hjob
    rfl
  places := pairwise_jobs

lemma WellPlaced.eq_of_covers (h : P.WellPlaced) {l l' : Nat} {job job' : Job} {e : Event}
    (hl : P.jobs[l]? = some job) (hl' : P.jobs[l']? = some job') (he : job.Covers e)
    (he' : job'.Covers e) : l = l' :=
  eq_of_pairwise_lt h.places hl hl' (Job.place_eq_of_covers he he')

/-- The event that ends a class, once it is finished. -/
def lastWord (P : ClassPlan) : ClassPhase → List Event
  | .finished verdict => [P.event (.finished (.ofVerdict verdict))]
  | _ => []

/-- **The events of a class** by how far it has come: those of the prelude, a tail in which each job
has told what belongs to the phase of its task, and the end of the class. -/
structure Logged (stage : Job → Phase → List Event → Prop) (P : ClassPlan) (c : ClassRun)
    (reached : Reached) (tail log : List Event) : Prop where
  log_eq : log = reached.told ++ tail ++ P.lastWord c.phase
  covered : ∀ e ∈ tail, ∃ job ∈ P.jobs, job.Covers e
  stages : ∀ {l : Nat} {s : ScenarioRun}, c.scenarios[l]? = some s →
    stage s.job s.phase (tail.filter fun e => s.job.Covers e)
  silent : ∀ {l : Nat} {s : ScenarioRun}, c.scenarios[l]? = some s →
    ((tail.filter fun e => s.job.Covers e) = [] ↔ reached.started ≤ l)
  starts : tail.filter Event.startsScenario =
    (P.jobs.take reached.started).map fun job => job.event .started

lemma isWithinClass_of_mem_prelude {e : Event} (h : e ∈ toldBy P.prelude) :
    e.subject.isWithinClass P.place = true := by
  rw [toldBy_prelude, List.mem_append, List.mem_cons, List.mem_map, List.mem_flatMap] at h
  rcases h with (rfl | ⟨c, -, rfl⟩) | ⟨f, -, hf⟩
  · simp [event, Subject.isWithinClass]
  · simp [Candidate.event, Subject.isWithinClass]
  · simp only [List.mem_cons, List.not_mem_nil, or_false] at hf
    rcases hf with rfl | rfl <;> simp [Candidate.event, Subject.isWithinClass]

namespace Logged

/-- Nothing is told of jobs before the first one starts. -/
lemma tail_eq_nil (h : P.Logged stage c reached tail log) (hlinked : P.Linked c reached)
    (hstarted : reached.started = 0) : tail = [] := by
  rw [List.eq_nil_iff_forall_not_mem]
  intro e he
  obtain ⟨job, hjob, hcovers⟩ := h.covered e he
  obtain ⟨l, hl⟩ := List.getElem?_of_mem hjob
  obtain ⟨phase, hs⟩ := hlinked.exists_scenario hl
  have hnil := (h.silent hs).mpr (hstarted ▸ Nat.zero_le l)
  exact List.not_mem_nil (hnil ▸ List.mem_filter.mpr ⟨he, by simpa using hcovers⟩)

/-- A class with the same scenarios, which has told something before they start. -/
lemma of_prelude (h : P.Logged stage c reached tail log) (hlinked : P.Linked c reached)
    {told : List Event} (hreached : reached = .before told) (more : List Event)
    (hscenarios : c'.scenarios = c.scenarios) (hphase : P.lastWord c.phase = [])
    (hphase' : P.lastWord c'.phase = []) :
    P.Logged stage c' (.before (told ++ more)) [] (log ++ more) := by
  subst hreached
  obtain rfl : tail = [] := h.tail_eq_nil hlinked rfl
  refine ⟨?_, by simp, ?_, ?_, by simp [Reached.before]⟩
  · rw [h.log_eq, hphase, hphase']
    simp [Reached.before]
  · intro l s hl
    rw [hscenarios] at hl
    exact h.stages hl
  · intro l s hl
    rw [hscenarios] at hl
    exact h.silent hl

/-- A class with another phase of one scenario, which tells nothing. -/
lemma of_changePhase (h : P.Logged stage c reached tail log) {k : Nat} {job : Job}
    {phase : Phase} {f : Phase → Phase} (hk : c.scenarios[k]? = some ⟨job, phase⟩)
    (hscenarios : c'.scenarios = (c.changePhase k f).scenarios)
    (htold : reached'.told = reached.told) (hstarted : reached'.started = reached.started)
    (hlast : P.lastWord c'.phase = P.lastWord c.phase)
    (hstage : stage job (f phase) (tail.filter fun e => job.Covers e)) :
    P.Logged stage c' reached' tail log := by
  refine ⟨by rw [h.log_eq, htold, hlast], h.covered, ?_, ?_, by rw [h.starts, hstarted]⟩
  · intro l s hl
    rw [hscenarios] at hl
    rcases ClassRun.eq_or_of_changePhase hk hl with ⟨rfl, rfl⟩ | ⟨-, hs⟩
    · exact hstage
    · exact h.stages hs
  · intro l s hl
    rw [hscenarios] at hl
    rw [hstarted]
    rcases ClassRun.eq_or_of_changePhase hk hl with ⟨rfl, rfl⟩ | ⟨-, hs⟩
    · exact h.silent (s := ⟨job, phase⟩) hk
    · exact h.silent hs

/-- A class in which one job tells something, and perhaps changes its phase. -/
lemma of_told (h : P.Logged stage c reached tail log) (hplaced : P.WellPlaced)
    (hlinked : P.Linked c reached) {k : Nat} {job : Job} {phase phase' : Phase}
    {more : List Event} (hk : c.scenarios[k]? = some ⟨job, phase⟩)
    (hscenarios : c'.scenarios = (c.changePhase k fun _ => phase').scenarios)
    (hlast : P.lastWord c.phase = []) (hlast' : P.lastWord c'.phase = [])
    (htold : reached'.told = reached.told) (hmore : ∀ e ∈ more, job.Covers e)
    (hsilent : ∀ l, l ≠ k → (reached'.started ≤ l ↔ reached.started ≤ l))
    (hsilent' : (tail.filter (fun e => job.Covers e)) ++ more = [] ↔ reached'.started ≤ k)
    (hstarts : (tail ++ more).filter Event.startsScenario =
      (P.jobs.take reached'.started).map fun job => job.event .started)
    (hstage : stage job phase' ((tail.filter fun e => job.Covers e) ++ more)) :
    P.Logged stage c' reached' (tail ++ more) (log ++ more) := by
  have hjob := hlinked.job_eq hk
  have hown : (more.filter fun e => job.Covers e) = more :=
    List.filter_eq_self.mpr fun e he => by simpa using hmore e he
  have hother : ∀ {l : Nat} {s : ScenarioRun}, c.scenarios[l]? = some s → l ≠ k →
      (more.filter fun e => s.job.Covers e) = [] := by
    intro l s hl hne
    rw [List.filter_eq_nil_iff]
    intro e he hcovers
    exact hne (hplaced.eq_of_covers (hlinked.job_eq hl) hjob (by simpa using hcovers)
      (hmore e he))
  refine ⟨?_, ?_, ?_, ?_, hstarts⟩
  · rw [h.log_eq, hlast, hlast', htold]
    simp
  · intro e he
    rcases List.mem_append.mp he with he | he
    · exact h.covered e he
    · exact ⟨job, List.mem_of_getElem? hjob, hmore e he⟩
  · intro l s hl
    rw [hscenarios] at hl
    rcases ClassRun.eq_or_of_changePhase hk hl with ⟨rfl, rfl⟩ | ⟨hlk, hs⟩
    · rw [List.filter_append, hown]
      exact hstage
    · rw [List.filter_append, hother hs hlk, List.append_nil]
      exact h.stages hs
  · intro l s hl
    rw [hscenarios] at hl
    rcases ClassRun.eq_or_of_changePhase hk hl with ⟨rfl, rfl⟩ | ⟨hlk, hs⟩
    · rw [List.filter_append, hown]
      exact hsilent'
    · rw [List.filter_append, hother hs hlk, List.append_nil, h.silent hs, hsilent l hlk]

/-- The start of a job is told behind all that was told before. -/
lemma begun {k : Nat} {job : Job} {actions : List ClassAction}
    (hcourse : Job.Course stage) (h : P.Logged stage c ⟨toldBy P.prelude, k + 1, k, k⟩ tail log)
    (hplaced : P.WellPlaced)
    (hlinked : P.Linked c ⟨toldBy P.prelude, k + 1, k, k⟩) (hjob : P.jobs[k]? = some job)
    (hphase : c.phase = .running (.emit (job.event .started) :: actions)) :
    P.Logged stage { c with phase := .running actions } ⟨toldBy P.prelude, k + 1, k + 1, k⟩
      (tail ++ [job.event .started]) (log ++ [job.event .started]) := by
  obtain ⟨phase, hk⟩ := hlinked.exists_scenario hjob
  obtain rfl : phase = .granted := hlinked.phase_launched hk (Nat.lt_succ_self k)
  have hnil := (h.silent hk).mpr (Nat.le_refl k)
  have hsame := ClassRun.scenarios_changePhase_self hk
  refine h.of_told hplaced hlinked hk hsame.symm (by rw [hphase]; rfl) rfl rfl ?_ ?_ ?_ ?_ ?_
  · intro e he
    obtain rfl := List.mem_singleton.mp he
    exact job.covers_event _
  · intro l hl
    dsimp only
    omega
  · simp
  · rw [List.filter_append, h.starts, List.take_add_one, hjob]
    simp [Job.event, Job.subject, Event.startsScenario]
  · rw [hnil]
    exact hcourse.begun job

/-- The task of a job whose start was told is launched. -/
lemma launched {k : Nat} {job : Job} {actions actions' : List ClassAction}
    (hcourse : Job.Course stage) (h : P.Logged stage c ⟨toldBy P.prelude, k + 1, k + 1, k⟩ tail log)
    (hlinked : P.Linked c ⟨toldBy P.prelude, k + 1, k + 1, k⟩) (hjob : P.jobs[k]? = some job)
    (hphase : c.phase = .running actions) :
    P.Logged stage ({ c with phase := .running actions' }.changePhase k .start)
      ⟨toldBy P.prelude, k + 1, k + 1, k + 1⟩ tail log := by
  obtain ⟨phase, hk⟩ := hlinked.exists_scenario hjob
  obtain rfl : phase = .granted := hlinked.phase_launched hk (Nat.lt_succ_self k)
  refine h.of_changePhase hk rfl rfl rfl (by rw [hphase]; rfl) ?_
  -- the start of the job was told before
  have hstage := h.stages hk
  have htold := (h.silent hk).not.mpr (by dsimp only; omega)
  dsimp only at hstage htold
  rw [(hcourse.cases_granted hstage).resolve_left htold]
  exact hcourse.submitting job

end Logged

/-- **A step of the task of the class** tells what it reaches. -/
theorem Logged.task (hcourse : Job.Course stage) (h : P.Logged stage c reached tail log)
    (hplaced : P.WellPlaced) (hlinked : P.Linked c reached) (hplace : c.place = P.place) (hnode : c.node = P.node)
    (hstep : P.TaskStep c o reached c' o' reached') :
    ∃ more tail', o'.events = o.events ++ more ∧
      (∀ e ∈ more, e.subject.isWithinClass P.place = true) ∧
      P.Logged stage c' reached' tail' (log ++ more) := by
  cases hstep with
  | @prepared done todo action hplan hphase hgate =>
      refine ⟨action.event?.toList, [], Outside.events_prepared .., ?_, ?_⟩
      · intro e he
        have hmem : e ∈ toldBy P.prelude := by
          rw [hplan, toldBy, List.mem_filterMap]
          exact ⟨action, by simp, by simpa using he⟩
        exact isWithinClass_of_mem_prelude hmem
      · have htold : toldBy (done ++ [action]) = toldBy done ++ action.event?.toList := by
          cases hevent : action.event? <;> simp [toldBy, hevent]
        rw [htold]
        exact h.of_prelude hlinked rfl _ rfl (by rw [hphase]; rfl) rfl
  | @overloaded done todo hplan hphase hgate =>
      have hlogged : P.Logged stage { c with phase := .crashed }
          (.before (toldBy done ++ [])) [] (log ++ []) :=
        h.of_prelude hlinked rfl [] rfl (by rw [hphase]; rfl) rfl
      rw [List.append_nil, List.append_nil] at hlogged
      exact ⟨[], [], by simp, by simp, by rwa [List.append_nil]⟩
  | @granted k job scope hjob hphase hacquire =>
      obtain ⟨phase, hk⟩ := hlinked.exists_scenario hjob
      obtain rfl : phase = .waiting := hlinked.phase_granted hk
      refine ⟨[], tail, by simp, by simp, ?_⟩
      rw [List.append_nil]
      refine h.of_changePhase hk rfl rfl rfl (by rw [hphase]; rfl) ?_
      rw [(h.silent hk).mpr (Nat.le_refl k)]
      exact hcourse.granted job
  | @begun k job hjob hphase =>
      refine ⟨[job.event .started], tail ++ [job.event .started], rfl, fun e he => ?_,
        h.begun hcourse hplaced hlinked hjob hphase⟩
      rw [List.mem_singleton.mp he, ← hplaced.groups job (List.mem_of_getElem? hjob)]
      exact (job.covers_event _).isWithinClass
  | @entered k job hjob hphase =>
      obtain ⟨phase, hk⟩ := hlinked.exists_scenario hjob
      refine ⟨[], tail, by simp, by simp, ?_⟩
      rw [List.append_nil]
      exact ⟨by rw [h.log_eq, hphase]; rfl, h.covered, h.stages, h.silent, h.starts⟩
  | launched hjob hphase =>
      refine ⟨[], tail, by simp, by simp, ?_⟩
      rw [List.append_nil]
      exact h.launched hcourse hlinked hjob hphase
  | awaited hphase hdone =>
      refine ⟨[], tail, by simp, by simp, ?_⟩
      rw [List.append_nil]
      exact ⟨by rw [h.log_eq, hphase]; rfl, h.covered, h.stages, h.silent, h.starts⟩
  | closed hphase =>
      refine ⟨[P.event (.finished (.ofVerdict c.scope.verdict))], tail, ?_, ?_, ?_⟩
      · rw [Outside.emit, hplace, hnode]
        rfl
      · intro e he
        obtain rfl := List.mem_singleton.mp he
        simp [event, Subject.isWithinClass]
      · refine ⟨?_, h.covered, h.stages, h.silent, h.starts⟩
        rw [h.log_eq, hphase]
        simp [lastWord]

/-- **A turn of the task of a scenario** tells what belongs to it. -/
theorem Logged.scenario (hcourse : Job.Course stage) (h : P.Logged stage c reached tail log)
    (hplaced : P.WellPlaced) (hlinked : P.Linked c reached) (hlast : P.lastWord c.phase = [])
    {l : Nat} {job : Job} {phase phase' : Phase} {scope' : ClassScope}
    (hl : c.scenarios[l]? = some ⟨job, phase⟩) (hlaunched : phase.isLaunched = true)
    (hpasses : job.Passes stage phase o phase' o') :
    ∃ more, o'.events = o.events ++ more ∧
      (∀ e ∈ more, e.subject.isWithinClass P.place = true) ∧
      P.Logged stage ({ c with scope := scope' }.setPhase l phase') reached (tail ++ more)
        (log ++ more) := by
  obtain ⟨more, hevents, hmore, hstage⟩ := hpasses (h.stages hl)
  have hstarted : ¬ reached.started ≤ l := by
    rw [← h.silent hl]
    intro hnil
    have hold := h.stages hl
    dsimp only at hold hnil
    rw [hnil] at hold
    rw [hcourse.not_launched hold] at hlaunched
    exact Bool.false_ne_true hlaunched
  refine ⟨more, hevents, fun e he => ?_, ?_⟩
  · rw [← hplaced.groups job (List.mem_of_getElem? (hlinked.job_eq hl))]
    exact (hmore e he).1.isWithinClass
  · refine h.of_told hplaced hlinked hl rfl hlast hlast rfl (fun e he => (hmore e he).1)
      (fun _ _ => Iff.rfl) ?_ ?_ hstage
    · refine iff_of_false (fun hnil => hstarted ?_) hstarted
      exact (h.silent hl).mp (List.append_eq_nil_iff.mp hnil).1
    · rw [List.filter_append, h.starts, List.filter_eq_nil_iff.mpr, List.append_nil]
      intro e he
      rw [(hmore e he).2]
      exact Bool.false_ne_true

/-! ## Following the plan -/

/-- **A class follows its plan**, and has told the events of a log, in which its jobs have told what
their course says. -/
structure FollowsBy (stage : Job → Phase → List Event → Prop) (options : RunOptions)
    (P : ClassPlan) (c : ClassRun) (log : List Event) : Prop where
  place : c.place = P.place
  node : c.node = P.node
  program : c.program = P.prelude ++ P.ending 0
  capacity : c.scope.capacity = max options.concurrency 1
  /-- The task is cut off only if the gate cannot be made. -/
  gate : c.phase = .crashed → ClassScope.limit < max options.concurrency 1
  /-- The end of the class tells the worst verdict. -/
  verdict : ∀ {verdict}, c.phase = .finished verdict → verdict = c.scope.verdict
  balanced : c.Balanced
  logged : ∃ reached tail, P.Linked c reached ∧ P.Logged stage c reached tail log

/-- A class that runs goes on: it tells more events of its own, and something is kept of it. -/
def GoesOn (inv : ClassPlan → ClassRun → List Event → Prop) (P : ClassPlan) (c : ClassRun)
    (o : Outside σ) (log : List Event) (c' : ClassRun) (o' : Outside σ) : Prop :=
  c.IsRunning ∧ c'.phase ≠ .waiting ∧
    ∃ more, o'.events = o.events ++ more ∧
      (∀ e ∈ more, e.subject.isWithinClass P.place = true) ∧ inv P c' (log ++ more)

/-- A class follows its plan, and no task of a scenario has been cut off. -/
abbrev Follows (options : RunOptions) (P : ClassPlan) (c : ClassRun) (log : List Event) : Prop :=
  P.FollowsBy (Job.Stage options) options c log

/-- A class that has not started follows its plan. -/
theorem followsBy_planned (hcourse : Job.Course stage) (found : Candidate → Except Error Environment)
    (options : RunOptions) (isSkipped : NodeId → Bool) (group : Nat) (node : Node) :
    (ofNode found isSkipped group node).FollowsBy stage options
      (planned found options isSkipped group node) [] where
  place := rfl
  node := rfl
  program := rfl
  capacity := rfl
  gate := fun hphase => absurd hphase ClassPhase.noConfusion
  verdict := fun hphase => absurd hphase ClassPhase.noConfusion
  balanced := balanced_planned ..
  logged := by
    refine ⟨_, [], linked_planned found options isSkipped group node, rfl, by simp, ?_, ?_, rfl⟩
    · intro l s hl
      rw [phase_planned found options isSkipped group node hl]
      exact hcourse.waiting s.job
    · intro l s _
      exact iff_of_true rfl (Nat.zero_le l)

namespace FollowsBy

lemma linked (h : P.FollowsBy stage options c log) : ∃ reached, P.Linked c reached := by
  obtain ⟨reached, tail, hlinked, -⟩ := h.logged
  exact ⟨reached, hlinked⟩

/-- Starting the task of a class tells nothing. -/
theorem begin (h : P.FollowsBy stage options c log) :
    P.FollowsBy stage options c.begin log := by
  obtain ⟨reached, tail, hlinked, hlogged⟩ := h.logged
  have hkeep : c.begin.place = c.place ∧ c.begin.node = c.node ∧ c.begin.program = c.program ∧
      c.begin.scope = c.scope ∧ c.begin.scenarios = c.scenarios ∧
      P.lastWord c.begin.phase = P.lastWord c.phase ∧
      (c.begin.phase = .crashed → c.phase = .crashed) ∧
      ∀ {verdict}, c.begin.phase = .finished verdict → c.phase = .finished verdict := by
    unfold ClassRun.begin
    split
    · next hphase =>
      exact ⟨rfl, rfl, rfl, rfl, rfl, by rw [hphase]; rfl,
        fun h => absurd h ClassPhase.noConfusion, fun h => absurd h ClassPhase.noConfusion⟩
    · exact ⟨rfl, rfl, rfl, rfl, rfl, rfl, id, id⟩
  obtain ⟨hplace, hnode, hprogram, hscope, hscenarios, hlast, hgate, hverdict⟩ := hkeep
  have hne : c.program ≠ [.close] := h.program ▸ append_ending_ne P P.prelude 0
  refine ⟨hplace.trans h.place, hnode.trans h.node, hprogram.trans h.program,
    by rw [hscope, h.capacity], h.gate ∘ hgate, fun hphase => ?_, h.balanced.begin hne, reached, tail,
    hlinked.begin h.program, ?_⟩
  · rw [hscope]
    exact h.verdict (hverdict hphase)
  refine ⟨by rw [hlogged.log_eq, hlast], hlogged.covered, ?_, ?_, hlogged.starts⟩
  · rw [hscenarios]
    exact hlogged.stages
  · rw [hscenarios]
    exact hlogged.silent

/-- **A step of the task of a class** that follows its plan. -/
theorem task (hcourse : Job.Course stage) (h : P.FollowsBy stage options c log)
    (hplaced : P.WellPlaced) (hadvance : c.advance? b o = some (c', o')) :
    P.GoesOn (FollowsBy stage options) c o log c' o' := by
  obtain ⟨reached, tail, hlinked, hlogged⟩ := h.logged
  obtain ⟨reached', hstep, hstage⟩ := taskStep_of_advance hlinked.stage hadvance
  obtain ⟨more, tail', hevents, hwithin, hlogged'⟩ :=
    hlogged.task hcourse hplaced hlinked h.place h.node hstep
  have hkeep : c'.place = c.place ∧ c'.node = c.node ∧ c'.program = c.program ∧
      c'.scope.capacity = c.scope.capacity := by
    cases hstep with
    | @prepared _ _ action _ _ _ => cases action <;> exact ⟨rfl, rfl, rfl, rfl⟩
    | granted _ _ hacquire => exact ⟨rfl, rfl, rfl, (ClassScope.of_acquire? hacquire).1⟩
    | @entered _ job _ _ => exact ⟨rfl, rfl, rfl, (c.scope.enter_permits job.node.id).1⟩
    | _ => exact ⟨rfl, rfl, rfl, rfl⟩
  have hrunning : c.IsRunning := by
    unfold ClassRun.advance? at hadvance
    split at hadvance
    · next action rest hphase => exact ⟨action :: rest, hphase⟩
    · exact absurd hadvance (by simp)
  have hgoes : c'.phase ≠ .waiting := by
    cases hstep <;> exact ClassPhase.noConfusion
  have hgate : c'.phase = .crashed → ClassScope.limit < max options.concurrency 1 := by
    cases hstep with
    | overloaded hplan hphase hgate => exact fun _ => h.capacity ▸ hgate
    | _ => exact ClassPhase.noConfusion
  have hverdict : ∀ {verdict}, c'.phase = .finished verdict → verdict = c'.scope.verdict := by
    intro verdict hphase
    cases hstep with
    | closed _ => exact (ClassPhase.finished.inj hphase).symm
    | _ => exact absurd hphase ClassPhase.noConfusion
  exact ⟨hrunning, hgoes, more, hevents, hwithin, hkeep.1.trans h.place,
    hkeep.2.1.trans h.node, hkeep.2.2.1.trans h.program, hkeep.2.2.2.trans h.capacity, hgate,
    hverdict, hlinked.balanced_task h.balanced hstep, reached', tail', hlinked.task hstep hstage,
    hlogged'⟩

/-- A class with a scenario that is not done is not finished. -/
lemma not_finished (h : P.FollowsBy stage options c log) (hpending : c.pending ≠ 0)
    {verdict : Verdict} : c.phase ≠ .finished verdict := fun hphase =>
  hpending (h.balanced.waited (Or.inr ⟨verdict, hphase⟩))

lemma lastWord_eq_nil (h : P.FollowsBy stage options c log) (hpending : c.pending ≠ 0) :
    P.lastWord c.phase = [] := by
  cases hphase : c.phase with
  | finished verdict => exact absurd hphase (h.not_finished hpending)
  | _ => rfl

/-- Scenarios are launched and not done only while the task of their class runs. -/
lemma isRunning_of_launched (h : P.FollowsBy stage options c log) {l : Nat} {job : Job}
    {phase : Phase} (hl : c.scenarios[l]? = some ⟨job, phase⟩) (hlaunched : phase.isLaunched = true)
    (hcounted : phase.isCounted = true) : c.IsRunning := by
  obtain ⟨reached, hlinked⟩ := h.linked
  have hlt := (hlinked.launched hl).mp hlaunched
  have hstage := hlinked.stage
  cases hphase : c.phase with
  | running actions => exact ⟨actions, hphase⟩
  | waiting =>
      rw [hphase] at hstage
      cases hstage
      exact absurd hlt (Nat.not_lt_zero l)
  | crashed =>
      rw [hphase] at hstage
      cases hstage
      exact absurd hlt (Nat.not_lt_zero l)
  | finished verdict =>
      have hpending := ClassRun.pending_pos hl hcounted
      exact absurd hphase (h.not_finished (Nat.ne_of_gt hpending))

/-- **A turn of the task of a scenario** in a class that follows its plan. -/
theorem scenario (hcourse : Job.Course stage) (h : P.FollowsBy stage options c log)
    (hplaced : P.WellPlaced) {l : Nat} {job : Job} {phase phase' : Phase} {scope' : ClassScope}
    (hl : c.scenarios[l]? = some ⟨job, phase⟩)
    (hturn : ClassRun.ScenarioTurn b options job phase c.scope o phase' scope' o')
    (hpasses : job.Passes stage phase o phase' o') :
    P.GoesOn (FollowsBy stage options) c o log ({ c with scope := scope' }.setPhase l phase') o' := by
  obtain ⟨actions, hrunning⟩ :=
    h.isRunning_of_launched hl hturn.isLaunched.1 hturn.isCounted
  obtain ⟨reached, tail, hlinked, hlogged⟩ := h.logged
  have hpending : c.pending ≠ 0 := Nat.ne_of_gt (ClassRun.pending_pos hl hturn.isCounted)
  obtain ⟨more, hevents, hwithin, hlogged'⟩ :=
    hlogged.scenario hcourse hplaced hlinked (h.lastWord_eq_nil hpending) hl hturn.isLaunched.1
      hpasses
  have hgoes : c.phase ≠ .waiting := by
    rw [hrunning]
    exact ClassPhase.noConfusion
  exact ⟨⟨actions, hrunning⟩, hgoes, more, hevents, hwithin, h.place, h.node, h.program,
    hturn.capacity_eq.trans h.capacity, h.gate,
    fun hphase => absurd hphase (h.not_finished hpending), h.balanced.scenario hl hturn, reached, _,
    hlinked.scenario hl hturn, hlogged'⟩

end FollowsBy

end ClassPlan

end ScenarioRunner
