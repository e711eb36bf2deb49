import ScenarioRunner.Proofs.Engine.Lifecycle

/-!
# How many scenarios run at once

What the gate of a class promises of its events, at every moment of a run.

* `unfinished` are the scenarios that have started and are not finished, as some events tell it.
* `ClassPlan.Follows.length_unfinished_le`: there are no more of them than the gate has permits.
* `Adjacent` says of two events that the second one comes directly behind the first one.
* `RunRequest.Ordered` is the order in which the scenarios of a class start, and
  `ClassPlan.Follows.ordered` establishes it.
* `Run.gated_of_reaches`: both hold at every moment, whichever way the tasks are scheduled.

A scenario whose environment is not found takes no permit.  Such scenarios start and fail one by one
before the first permit is given, so that they never run beside another one.
-/

namespace ScenarioRunner

/-- The event says that a scenario is finished whose start another one tells. -/
def Event.ends (e start : Event) : Bool :=
  e.subject == start.subject && e.isFinish

/-- No event says that the scenario is finished whose start is told. -/
def Event.isOpen (start : Event) (events : List Event) : Bool :=
  !events.any fun e => e.ends start

/-- The starts of the scenarios that are not finished. -/
def unfinished (events : List Event) : List Event :=
  (events.filter Event.startsScenario).filter fun start => start.isOpen events

lemma Event.isOpen_iff {events : List Event} {start : Event} :
    start.isOpen events = true ↔
      ∀ e ∈ events, e.subject = start.subject → e.isFinish = false := by
  simp [isOpen, ends]

lemma mem_unfinished {events : List Event} {start : Event} :
    start ∈ unfinished events ↔
      start ∈ events ∧ start.startsScenario = true ∧ start.isOpen events = true := by
  rw [unfinished, List.mem_filter, List.mem_filter, and_assoc]

/-- How far two events of one subject have been told: neither of them, the first one as the last of
all events, or the second one directly behind the first one.  Nothing else is told of the subject. -/
inductive Adjacent (first second : Event) : List Event → Prop where
  | untold {events : List Event} (h : ∀ e ∈ events, e.subject ≠ first.subject) :
    Adjacent first second events
  | begun {front : List Event} (hfront : ∀ e ∈ front, e.subject ≠ first.subject) :
    Adjacent first second (front ++ [first])
  | told {front back : List Event} (hfront : ∀ e ∈ front, e.subject ≠ first.subject)
    (hback : ∀ e ∈ back, e.subject ≠ first.subject) :
    Adjacent first second (front ++ first :: second :: back)

lemma Adjacent.of_whole {first second : Event} {front back events : List Event}
    (hfront : ∀ e ∈ front, e.subject ≠ first.subject)
    (hback : ∀ e ∈ back, e.subject ≠ first.subject)
    (h : events <+: front ++ first :: second :: back) : Adjacent first second events := by
  obtain ⟨rest, hrest⟩ := h
  rcases List.append_eq_append_iff.mp hrest with ⟨behind, rfl, -⟩ | ⟨told, rfl, htold⟩
  · exact .untold fun e he => hfront e (List.mem_append_left _ he)
  · match told, htold with
    | [], _ => exact .untold fun e he => hfront e (by simpa using he)
    | [e], htold =>
        obtain ⟨rfl, -⟩ := List.cons.inj htold
        exact .begun hfront
    | e :: e' :: more, htold =>
        simp only [List.cons_append, List.cons.injEq] at htold
        obtain ⟨rfl, rfl, rfl⟩ := htold
        exact .told hfront fun e he => hback e (List.mem_append_left _ he)

namespace ClassPlan

variable {found : Candidate → Except Error Environment} {options : RunOptions}
  {isSkipped : NodeId → Bool} {group : Nat} {node : Node} {P : ClassPlan} {c : ClassRun} {reached : Reached}
  {tail log : List Event}

/-! ## The prelude -/

/-- What a class has told is part of its prelude, or the prelude is complete. -/
lemma Linked.told_cases (h : P.Linked c reached) :
    reached.told = toldBy P.prelude ∨
      reached.told <+: toldBy P.prelude ∧ reached.started = 0 ∧ P.lastWord c.phase = [] := by
  have hstage := h.stage
  generalize c.phase = phase at hstage
  cases hstage with
  | waiting => exact Or.inr ⟨List.nil_prefix, rfl, rfl⟩
  | @preparing done todo action hplan =>
      refine Or.inr ⟨?_, rfl, rfl⟩
      rw [hplan, toldBy_append]
      exact List.prefix_append _ _
  | @crashed done todo hplan =>
      refine Or.inr ⟨?_, rfl, rfl⟩
      rw [hplan, toldBy_append]
      exact List.prefix_append _ _
  | _ => exact Or.inl rfl

/-- The events so far are part of the prelude, or the prelude is complete and the tail follows. -/
lemma Logged.log_cases (h : P.Logged (Job.Stage options) c reached tail log) (hlinked : P.Linked c reached) :
    log <+: toldBy P.prelude ∨ log = toldBy P.prelude ++ (tail ++ P.lastWord c.phase) := by
  rcases hlinked.told_cases with htold | ⟨htold, hstarted, hlast⟩
  · refine Or.inr ?_
    rw [h.log_eq, htold, List.append_assoc]
  · refine Or.inl ?_
    rw [h.log_eq, h.tail_eq_nil hlinked hstarted, hlast, List.append_nil, List.append_nil]
    exact htold

/-- The scenarios that start in the prelude are those that fail. -/
lemma filter_startsScenario_prelude (P : ClassPlan) :
    (toldBy P.prelude).filter Event.startsScenario =
      P.failed.map fun f => f.1.event P.place .started := by
  have hskipped : ∀ candidates : List Candidate,
      (candidates.map fun c => c.event P.place (.skipped skipReason)).filter
        Event.startsScenario = [] := by
    intro candidates
    rw [List.filter_eq_nil_iff]
    intro e he
    obtain ⟨c, -, rfl⟩ := List.mem_map.mp he
    exact Bool.false_ne_true
  have hfailed : ∀ failed : List (Candidate × Error),
      (failed.flatMap fun f =>
          [f.1.event P.place .started, f.1.event P.place (.finished (.failure f.2.message))]).filter
        Event.startsScenario = failed.map fun f => f.1.event P.place .started := by
    intro failed
    induction failed with
    | nil => rfl
    | cons f failed ih => rw [List.flatMap_cons, List.filter_append, ih]; rfl
  rw [toldBy_prelude, List.filter_append, List.filter_cons_of_neg, hskipped, hfailed]
  · rfl
  · exact Bool.false_ne_true

lemma exists_failed {e : Event} (he : e ∈ toldBy (ofNode found isSkipped group node).prelude)
    (hstarts : e.startsScenario = true) :
    ∃ f error, (f, error) ∈ (ofNode found isSkipped group node).failed ∧
      e = f.event group .started := by
  have hmem : e ∈ (toldBy (ofNode found isSkipped group node).prelude).filter Event.startsScenario :=
    List.mem_filter.mpr ⟨he, hstarts⟩
  rw [filter_startsScenario_prelude] at hmem
  obtain ⟨⟨f, error⟩, hf, rfl⟩ := List.mem_map.mp hmem
  exact ⟨f, error, hf, rfl⟩

/-- The prelude tells the end of a scenario that fails directly behind its start, and nothing else of
it. -/
lemma exists_adjacent {f : Candidate} {error : Error}
    (hf : (f, error) ∈ (ofNode found isSkipped group node).failed) :
    ∃ front back,
      toldBy (ofNode found isSkipped group node).prelude =
        front ++ f.event group .started ::
          f.event group (.finished (.failure error.message)) :: back ∧
      (∀ e ∈ front, e.subject ≠ .scenarioAt group f.place) ∧
      ∀ e ∈ back, e.subject ≠ .scenarioAt group f.place := by
  obtain ⟨front, back, hprelude⟩ : ∃ front back,
      toldBy (ofNode found isSkipped group node).prelude =
        front ++ f.event group .started ::
          f.event group (.finished (.failure error.message)) :: back := by
    obtain ⟨before, behind, hfailed⟩ := List.append_of_mem hf
    rw [toldBy_prelude, hfailed, List.flatMap_append, List.flatMap_cons, ← List.append_assoc]
    exact ⟨_, _, rfl⟩
  have hwithin : ∀ change,
      (f.event group change).subject.isWithinScenario group f.place = true := fun change =>
    (isWithinScenario_event ..).trans (beq_self_eq_true _)
  have hown := filter_prelude_failed hf
  rw [hprelude] at hown
  obtain ⟨hfront, hback⟩ := filter_eq_nil_of_pair hown (hwithin _) (hwithin _)
  have hne : ∀ {events : List Event},
      (events.filter fun e => e.subject.isWithinScenario group f.place) = [] →
      ∀ e ∈ events, e.subject ≠ .scenarioAt group f.place := by
    intro events hnil e he hsubject
    refine List.filter_eq_nil_iff.mp hnil e he ?_
    rw [hsubject]
    simp [Subject.isWithinScenario]
  exact ⟨front, back, hprelude, hne hfront, hne hback⟩

/-- In every part of the prelude, the end of a scenario that fails comes directly behind its start. -/
lemma adjacent_of_part {f : Candidate} {error : Error}
    (hf : (f, error) ∈ (ofNode found isSkipped group node).failed)
    (h : log <+: toldBy (ofNode found isSkipped group node).prelude) :
    Adjacent (f.event group .started) (f.event group (.finished (.failure error.message))) log := by
  obtain ⟨front, back, hprelude, hfront, hback⟩ := exists_adjacent hf
  rw [hprelude] at h
  exact .of_whole hfront hback h

/-! ## The bound -/

/-- At most one scenario is unfinished while the prelude is told. -/
lemma length_unfinished_prelude_le
    (h : log <+: toldBy (ofNode found isSkipped group node).prelude) :
    (unfinished log).length ≤ 1 := by
  have hlast : ∀ start ∈ unfinished log,
      ∃ front, log = front ++ [start] ∧ ∀ e ∈ front, e.subject ≠ start.subject := by
    intro start hstart
    obtain ⟨hmem, hstarts, hopen⟩ := mem_unfinished.mp hstart
    obtain ⟨f, error, hf, rfl⟩ := exists_failed (h.subset hmem) hstarts
    cases adjacent_of_part hf h with
    | untold hnone => exact absurd rfl (hnone _ hmem)
    | @begun front hfront => exact ⟨front, rfl, hfront⟩
    | told hfront hback =>
        have hfinish := Event.isOpen_iff.mp hopen
          (f.event group (.finished (.failure error.message))) (by simp) rfl
        exact absurd hfinish.symm Bool.false_ne_true
  cases hunfinished : unfinished log with
  | nil => exact Nat.zero_le 1
  | cons start starts =>
      obtain ⟨front, hlog, hfront⟩ := hlast start (hunfinished ▸ List.mem_cons_self)
      -- another one would be the last event as well
      have hnone : (front.filter Event.startsScenario).filter (fun e => e.isOpen log) = [] := by
        rw [List.filter_eq_nil_iff]
        intro e he hopen
        obtain ⟨he, hstarts⟩ := List.mem_filter.mp he
        have hmem : e ∈ log := hlog ▸ List.mem_append_left _ he
        obtain ⟨front', hlog', -⟩ := hlast e (mem_unfinished.mpr ⟨hmem, hstarts, hopen⟩)
        obtain ⟨-, heq⟩ := List.append_inj' (hlog.symm.trans hlog') rfl
        obtain rfl := List.singleton_inj.mp heq
        exact hfront start he rfl
      have hsplit : unfinished log =
          ([start].filter Event.startsScenario).filter fun e => e.isOpen log := by
        have hfilter : log.filter Event.startsScenario =
            front.filter Event.startsScenario ++ [start].filter Event.startsScenario := by
          rw [← List.filter_append, ← hlog]
        rw [unfinished, hfilter, List.filter_append, hnone, List.nil_append]
      calc (start :: starts).length
          = (([start].filter Event.startsScenario).filter fun e => e.isOpen log).length := by
            rw [← hunfinished, hsplit]
        _ ≤ ([start].filter Event.startsScenario).length := List.length_filter_le _ _
        _ ≤ 1 := List.length_filter_le _ [start]

/-- A scenario that has started and is not finished holds a permit. -/
lemma Logged.holdsPermit (h : P.Logged (Job.Stage options) c reached tail log) {l : Nat} {s : ScenarioRun}
    (hl : c.scenarios[l]? = some s) (hstarted : l < reached.started)
    (hopen : (s.job.event .started).isOpen tail = true) : s.phase.holdsPermit = true := by
  obtain ⟨job, phase⟩ := s
  have hstage := h.stages hl
  have htold := (h.silent hl).not.mpr (Nat.not_le_of_lt hstarted)
  dsimp only at hstage htold
  generalize hown : (tail.filter fun e => job.Covers e) = own at hstage htold
  cases hstage with
  | waiting => exact absurd rfl htold
  | granted => exact absurd rfl htold
  | begun => rfl
  | submitting => rfl
  | opening id => rfl
  | acting opened hactions => rfl
  | complete opened hphase =>
      -- the end of the scenario has been told
      have hfinish : job.event (.finished (job.followed opened).result) ∈
          tail.filter fun e => job.Covers e := by
        rw [hown, Job.toldBy_actions]
        simp
      have hunfinish := Event.isOpen_iff.mp hopen _ (List.mem_filter.mp hfinish).1 rfl
      exact absurd hunfinish.symm Bool.false_ne_true

/-- Behind the prelude, every scenario that is unfinished holds a permit. -/
lemma Logged.length_unfinished_le
    (h : (ofNode found isSkipped group node).Logged (Job.Stage options) c reached tail log)
    (hlinked : (ofNode found isSkipped group node).Linked c reached)
    (hlog : log = toldBy (ofNode found isSkipped group node).prelude ++
      (tail ++ (ofNode found isSkipped group node).lastWord c.phase)) :
    (unfinished log).length ≤ c.held := by
  have hprelude : ((toldBy (ofNode found isSkipped group node).prelude).filter
      Event.startsScenario).filter (fun e => e.isOpen log) = [] := by
    rw [List.filter_eq_nil_iff]
    intro e he hopen
    obtain ⟨he, hstarts⟩ := List.mem_filter.mp he
    obtain ⟨f, error, hf, rfl⟩ := exists_failed he hstarts
    obtain ⟨front, back, heq, -, -⟩ := exists_adjacent hf
    have hfinish : f.event group (.finished (.failure error.message)) ∈ log := by
      rw [hlog, heq]
      simp
    exact absurd (Event.isOpen_iff.mp hopen _ hfinish rfl).symm Bool.false_ne_true
  have hlast : ((ofNode found isSkipped group node).lastWord c.phase).filter
      Event.startsScenario = [] := by
    cases c.phase <;> rfl
  have hstarts : tail.filter Event.startsScenario =
      (c.scenarios.take reached.started).map fun s => s.job.event .started := by
    rw [h.starts, ← hlinked.jobs, ← List.map_take, List.map_map]
    rfl
  have hholds : ∀ s ∈ c.scenarios.take reached.started,
      (s.job.event .started).isOpen log = true → s.phase.holdsPermit = true := by
    intro s hs hopen
    obtain ⟨l, hl⟩ := List.getElem?_of_mem hs
    rw [List.getElem?_take] at hl
    split at hl
    · next hstarted =>
      refine h.holdsPermit hl hstarted (Event.isOpen_iff.mpr fun e he => ?_)
      exact Event.isOpen_iff.mp hopen e (by rw [hlog]; simp [he])
    · exact absurd hl (by simp)
  calc (unfinished log).length
      = ((tail.filter Event.startsScenario).filter fun e => e.isOpen log).length := by
        have hfilter : log.filter Event.startsScenario =
            (toldBy (ofNode found isSkipped group node).prelude).filter Event.startsScenario ++
              tail.filter Event.startsScenario := by
          conv_lhs => rw [hlog]
          rw [List.filter_append, List.filter_append, hlast, List.append_nil]
        rw [unfinished, hfilter, List.filter_append, hprelude, List.nil_append]
    _ = (c.scenarios.take reached.started).countP fun s => (s.job.event .started).isOpen log := by
        rw [hstarts, ← List.countP_eq_length_filter, List.countP_map]
        rfl
    _ ≤ (c.scenarios.take reached.started).countP fun s => s.phase.holdsPermit :=
        List.countP_mono_left hholds
    _ ≤ c.scenarios.countP fun s => s.phase.holdsPermit :=
        (List.take_sublist _ _).countP_le
    _ = c.held := countP_eq_total _ _

/-- **The gate bounds the scenarios that run**, those included that fail at once. -/
theorem Follows.length_unfinished_le
    (h : (ofNode found isSkipped group node).Follows options c log) :
    (unfinished log).length ≤ max options.concurrency 1 := by
  obtain ⟨reached, tail, hlinked, hlogged⟩ := h.logged
  rcases hlogged.log_cases hlinked with hpart | hlog
  · exact (length_unfinished_prelude_le hpart).trans (Nat.le_max_right _ _)
  · calc (unfinished log).length
        ≤ c.held := hlogged.length_unfinished_le hlinked hlog
      _ ≤ c.scope.capacity := by
          have := h.balanced.permits
          omega
      _ = max options.concurrency 1 := h.capacity

/-! ## The order -/

/-- The scenarios of a class whose environments are found, or those whose environments are not. -/
def inOrder (found : Candidate → Except Error Environment) (isSkipped : NodeId → Bool) (node : Node)
    (isFound : Bool) : List Candidate :=
  (runnable isSkipped node).filter fun c => (found c).isOk == isFound

lemma map_started_failed (found : Candidate → Except Error Environment) (group : Nat)
    (candidates : List Candidate) :
    ((candidates.filterMap (failing? found)).map fun f => f.1.event group .started) =
      (candidates.filter fun c => (found c).isOk == false).map fun c =>
        c.event group .started := by
  induction candidates with
  | nil => rfl
  | cons c candidates ih =>
      rw [List.filterMap_cons, List.filter_cons, failing?]
      cases found c with
      | ok environment => exact ih
      | error e => exact congrArg (_ :: ·) ih

lemma map_started_jobs (found : Candidate → Except Error Environment) (group : Nat)
    (candidates : List Candidate) :
    ((jobsOf found group candidates).map fun job => job.event .started) =
      (candidates.filter fun c => (found c).isOk == true).map fun c => c.event group .started := by
  unfold jobsOf
  induction candidates with
  | nil => rfl
  | cons c candidates ih =>
      rw [List.filterMap_cons, List.filter_cons]
      cases found c with
      | ok environment => exact congrArg (_ :: ·) ih
      | error e => exact ih

end ClassPlan

/-- **The order in which the scenarios of a class start**, by the events so far at and below it. -/
structure RunRequest.Ordered (found : Candidate → Except Error Environment) (request : RunRequest)
    (i : Nat) (node : Node) (log : List Event) : Prop where
  /-- The scenarios whose environments are not found come first, then the others, both in the order
  of the tree. -/
  starts : log.filter Event.startsScenario <+:
    (ClassPlan.inOrder found request.skip.contains node false ++
      ClassPlan.inOrder found request.skip.contains node true).map fun c => c.event i .started
  /-- A scenario whose environment is not found ends directly behind its start. -/
  adjacent : ∀ {c : Candidate} {error : Error},
    c ∈ ClassPlan.runnable request.skip.contains node → found c = .error error →
    Adjacent (c.event i .started) (c.event i (.finished (.failure error.message))) log
  /-- It has ended when another one starts whose environment is found. -/
  before : ∀ {c c' : Candidate} {error : Error} {front back : List Event},
    c ∈ ClassPlan.runnable request.skip.contains node → found c = .error error →
    c' ∈ ClassPlan.runnable request.skip.contains node → (found c').isOk = true →
    log = front ++ c'.event i .started :: back →
    [c.event i .started, c.event i (.finished (.failure error.message))] <:+: front

namespace ClassPlan

variable {found : Candidate → Except Error Environment} {options : RunOptions}
  {request : RunRequest} {i : Nat} {node : Node} {c : ClassRun} {reached : Reached} {tail log : List Event}

lemma Logged.starts_prefix {P : ClassPlan} (h : P.Logged (Job.Stage options) c reached tail log)
    (hlinked : P.Linked c reached) :
    log.filter Event.startsScenario <+:
      P.failed.map (fun f => f.1.event P.place .started) ++
        P.jobs.map fun job => job.event .started := by
  rcases h.log_cases hlinked with hpart | hlog
  · rw [← filter_startsScenario_prelude]
    exact (hpart.filter _).trans (List.prefix_append _ _)
  · have hlast : (P.lastWord c.phase).filter Event.startsScenario = [] := by
      cases c.phase <;> rfl
    rw [hlog, List.filter_append, List.filter_append, hlast, List.append_nil, h.starts,
      filter_startsScenario_prelude]
    exact (List.prefix_append_right_inj _).mpr ((List.take_prefix _ _).map _)

/-- Behind the prelude nothing is told of a scenario that fails. -/
lemma Logged.subject_ne
    (h : (ofNode found request.skip.contains i node).Logged (Job.Stage options) c reached tail log)
    {f : Candidate} {error : Error}
    (hf : (f, error) ∈ (ofNode found request.skip.contains i node).failed) {e : Event}
    (he : e ∈ tail ++ (ofNode found request.skip.contains i node).lastWord c.phase) :
    e.subject ≠ .scenarioAt i f.place := by
  intro hsubject
  rcases List.mem_append.mp he with he | he
  · obtain ⟨job, hjob, hcovers⟩ := h.covered e he
    refine place_ne_of_failed_of_job hf hjob ?_
    rw [Job.Covers, hsubject] at hcovers
    simp only [Subject.isWithinScenario, Bool.and_eq_true, beq_iff_eq] at hcovers
    exact hcovers.2
  · unfold lastWord at he
    split at he
    · rw [List.mem_singleton.mp he] at hsubject
      exact absurd hsubject Subject.noConfusion
    · exact absurd he List.not_mem_nil

/-- A scenario whose environment is found does not start in the prelude. -/
lemma start_not_mem_prelude {f : Candidate} (hf : f ∈ runnable request.skip.contains node)
    (hisOk : (found f).isOk = true) :
    f.event i .started ∉ toldBy (ofNode found request.skip.contains i node).prelude := by
  intro hmem
  obtain ⟨f', error, hf', heq⟩ := exists_failed hmem rfl
  obtain ⟨hat, -, herror⟩ := failed_iff.mp hf'
  have hplace : f.place = f'.place := by simpa [Candidate.event] using congrArg Event.subject heq
  obtain rfl := candidate_eq (runnable_iff.mp hf).1 hat hplace
  rw [herror] at hisOk
  exact absurd hisOk Bool.false_ne_true

/-- **The scenarios of a class start in order.** -/
theorem Follows.ordered (h : (ofNode found request.skip.contains i node).Follows options c log) :
    request.Ordered found i node log := by
  obtain ⟨reached, tail, hlinked, hlogged⟩ := h.logged
  have hfailed : ∀ {f : Candidate} {error : Error}, f ∈ runnable request.skip.contains node →
      found f = .error error →
      (f, error) ∈ (ofNode found request.skip.contains i node).failed := by
    intro f error hf herror
    obtain ⟨hat, hskipped⟩ := runnable_iff.mp hf
    exact failed_iff.mpr ⟨hat, hskipped, herror⟩
  refine ⟨?_, ?_, ?_⟩
  · rw [inOrder, inOrder, List.map_append, ← map_started_failed, ← map_started_jobs]
    exact hlogged.starts_prefix hlinked
  · intro f error hf herror
    rcases hlogged.log_cases hlinked with hpart | hlog
    · exact adjacent_of_part (hfailed hf herror) hpart
    · obtain ⟨front, back, hprelude, hfront, hback⟩ := exists_adjacent (hfailed hf herror)
      rw [hlog, hprelude, List.append_assoc]
      refine .told hfront fun e he => ?_
      rcases List.mem_append.mp he with he | he
      · exact hback e he
      · exact hlogged.subject_ne (hfailed hf herror) he
  · intro f f' error front back hf herror hf' hfound hlog
    have hnot := start_not_mem_prelude (i := i) hf' hfound
    obtain ⟨before, behind, hprelude, -, -⟩ := exists_adjacent (hfailed hf herror)
    have hinfix : [f.event i .started, f.event i (.finished (.failure error.message))] <:+:
        toldBy (ofNode found request.skip.contains i node).prelude :=
      ⟨before, behind, by rw [hprelude]; simp⟩
    refine hinfix.trans (List.IsPrefix.isInfix ?_)
    rcases hlogged.log_cases hlinked with hpart | hlog'
    · exact absurd (hpart.subset (by rw [hlog]; simp)) hnot
    · rcases List.append_eq_append_iff.mp (hlog'.symm.trans hlog) with
        ⟨more, hfront, -⟩ | ⟨more, hpart, hrest⟩
      · exact ⟨more, hfront.symm⟩
      · -- the start would belong to the prelude
        cases more with
        | nil => exact ⟨[], by rw [hpart, List.append_nil, List.append_nil]⟩
        | cons e more =>
            obtain ⟨rfl, -⟩ := List.cons.inj hrest
            exact absurd (by rw [hpart]; simp) hnot

end ClassPlan

namespace Run

variable {σ : Type} {b : Backend σ} {options : RunOptions} {request : RunRequest}
  {findings : Findings} {r : Run σ}

lemma Follows.startsScenario_of_mem_enginesLog (h : r.Follows findings options request) {e : Event}
    (he : e ∈ r.enginesLog request) : e.startsScenario = false := by
  have hprelude : ∀ e ∈ RunRequest.toldBy (request.prelude options),
      e.startsScenario = false := by
    intro e he
    rw [RunRequest.toldBy_prelude, List.mem_cons, List.mem_map] at he
    rcases he with rfl | ⟨c, -, rfl⟩ <;> rfl
  cases h.engine with
  | running hplan _ htold _ =>
      rw [htold] at he
      refine hprelude e ?_
      rw [hplan, RunRequest.toldBy_append]
      exact List.mem_append_left _ he
  | closing _ htold _ => exact hprelude e (htold ▸ he)
  | closed _ htold _ _ =>
      rw [htold] at he
      rcases List.mem_append.mp he with he | he
      · exact hprelude e he
      · rw [List.mem_singleton.mp he]
        rfl

/-- The gate of every class bounds its scenarios. -/
theorem Follows.length_unfinished_logOf_le (h : r.Follows findings options request) (i : Nat) :
    (unfinished (r.logOf i)).length ≤ max options.concurrency 1 := by
  by_cases hplan : ∃ P ∈ request.plans findings, P.place = i
  · obtain ⟨P, hP, rfl⟩ := hplan
    obtain ⟨k, hk⟩ := List.getElem?_of_mem hP
    obtain ⟨c, -, hfollows⟩ := h.classes hk
    obtain ⟨node, i, -, -, rfl⟩ := RunRequest.mem_plans.mp hP
    exact hfollows.length_unfinished_le
  · -- only the engine tells of the class
    have hnil : unfinished (r.logOf i) = [] := by
      rw [List.eq_nil_iff_forall_not_mem]
      intro e he
      obtain ⟨hmem, hstarts, -⟩ := mem_unfinished.mp he
      obtain ⟨hmem, hwithin⟩ := List.mem_filter.mp hmem
      have hengines : isEngines request e = true := by
        rw [isEngines, List.all_eq_true]
        intro p hp
        rw [Bool.not_eq_true', Bool.eq_false_iff]
        intro hwithin'
        exact hplan ⟨_, List.mem_map_of_mem hp, Subject.eq_of_isWithinClass hwithin' hwithin⟩
      have := h.startsScenario_of_mem_enginesLog (List.mem_filter.mpr ⟨hmem, hengines⟩)
      rw [hstarts] at this
      exact absurd this.symm Bool.false_ne_true
    rw [hnil]
    exact Nat.zero_le _

/-- **The gate of a class holds at every moment.**  Whichever way the tasks are scheduled, if none of
them is cut off, then no more scenarios of a class are unfinished than its gate has permits.  A class
has searched for the environments of its first scenarios, once for each of them, and what it finds may
be another thing each time.  The scenarios whose environments are not found start and end first, one
by one, and the others start behind them in the order of the tree. -/
theorem gated_of_reaches (b : Backend σ) (options : RunOptions) (request : RunRequest) (s : σ)
    {choices : List Choice} (hreaches : Reaches b options (ofRequest options request s) choices r)
    (hquiet : Quiet choices) :
    (∀ i, (unfinished (r.logOf i)).length ≤ max options.concurrency 1) ∧
    (∃ findings : Findings,
      findings.Agree ((ofRequest options request s).lookups b options choices)) ∧
    ∀ {i : Nat} {node : Node}, request.root.children[i]? = some node →
      request.skip.contains node.id = false →
      (((ofRequest options request s).lookups b options choices).filter fun x => x.group == i).map
          Lookup.candidate <+: ClassPlan.runnable request.skip.contains node ∧
      ∀ findings : Findings,
        findings.Agree ((ofRequest options request s).lookups b options choices) →
          request.Ordered (findings i) i node (r.logOf i) := by
  have hfollows : ∀ {findings : Findings},
      findings.Agree ((ofRequest options request s).lookups b options choices) →
        (r.foreseen findings).Follows findings options request := fun hagree =>
    follows_of_proceeds (hreaches.proceeds hquiet hagree)
  obtain ⟨findings, hagree, -⟩ := hreaches.exists_findings
  refine ⟨(hfollows hagree).length_unfinished_logOf_le, ⟨findings, hagree⟩, ?_⟩
  intro i node hchild hskip
  refine ⟨(searched_of_reaches hreaches).first hchild hskip, fun findings hagree => ?_⟩
  obtain ⟨k, hk⟩ := RunRequest.exists_plan findings hchild hskip
  obtain ⟨c, -, hclass⟩ := (hfollows hagree).classes hk
  exact hclass.ordered

lemma reaches_of_foldlM {choices : List Choice} {r r' : Run σ}
    (h : choices.foldlM (step? b options) r = some r') : Reaches b options r choices r' := by
  induction choices generalizing r with
  | nil =>
      obtain rfl := Option.some.inj h
      exact .refl r
  | cons choice choices ih =>
      rw [List.foldlM_cons, Option.bind_eq_bind, Option.bind_eq_some_iff] at h
      obtain ⟨next, hfirst, hrest⟩ := h
      exact .step hfirst (ih hrest)

/-- A class with two scenarios of different titles, both in the default environment. -/
def twoTitles : RunRequest where
  root :=
    .engine
      [.ofClass (NodeId.engine NodeId.engineName) "a.A" [plain "first" none, plain "second" none]]
  skip := []

/-- The default environment is found once and is gone then.  The state counts the searches for it. -/
def foundOnce : Backend Nat where
  submit _ _ _ _ n := (.ok 1, n)
  notifications _ n := (.ok [], n)
  defaultEnvironment n := (.ok "local", n)
  environment name n :=
    (if n = 0 then .ok (.named name) else .error (.environment (.notFound name)), n + 1)

/-- The engine starts the first class, whose task goes on until its first job has started. -/
def untilFirstJob : List Choice :=
  .advance .engine :: .advance .engine :: List.replicate 13 (.advance (.classTask 0))

/-- The second scenario has failed by then, and the first one is unfinished, although both of them
name the same environment. -/
theorem gated_of_reaches_foundOnce :
    ∃ r,
      Reaches foundOnce {} (ofRequest {} twoTitles 0) untilFirstJob r ∧
      Quiet untilFirstJob ∧
      ((ofRequest {} twoTitles 0).lookups foundOnce {} untilFirstJob).map (fun x => x.found.isOk) =
        [true, false] ∧
      (r.logOf 0).map (fun e => e.subject) =
        [.classAt 0, .scenarioAt 0 1, .scenarioAt 0 1, .scenarioAt 0 0] ∧
      (unfinished (r.logOf 0)).length = 1 ∧
      (∀ i, (unfinished (r.logOf i)).length ≤ max 1 1) ∧
      ∃ (findings : Findings) (node : Node), twoTitles.root.children[0]? = some node ∧
        twoTitles.Ordered (findings 0) 0 node (r.logOf 0) := by
  have hsome : (untilFirstJob.foldlM (step? foundOnce {}) (ofRequest {} twoTitles 0)).any (fun r =>
      (r.logOf 0).map (fun e => e.subject) ==
          [.classAt 0, .scenarioAt 0 1, .scenarioAt 0 1, .scenarioAt 0 0] &&
        (unfinished (r.logOf 0)).length == 1) = true := by decide +kernel
  obtain ⟨r, hr, htold⟩ := (Option.any_eq_true _ _).mp hsome
  obtain ⟨hsubjects, hunfinished⟩ := Bool.and_eq_true_iff.mp htold
  have hreaches := reaches_of_foldlM hr
  have hquiet : Quiet untilFirstJob := by
    intro choice hchoice
    rcases List.mem_cons.mp hchoice with rfl | hchoice
    · exact ⟨.engine, rfl⟩
    · rcases List.mem_cons.mp hchoice with rfl | hchoice
      · exact ⟨.engine, rfl⟩
      · exact ⟨.classTask 0, List.eq_of_mem_replicate hchoice⟩
  obtain ⟨hbound, ⟨findings, hagree⟩, hordered⟩ :=
    gated_of_reaches foundOnce {} twoTitles 0 hreaches hquiet
  exact ⟨r, hreaches, hquiet, by decide +kernel, beq_iff_eq.mp hsubjects,
    beq_iff_eq.mp hunfinished, hbound, findings, _, rfl,
    (hordered rfl (by decide +kernel)).2 findings hagree⟩

end Run

end ScenarioRunner
