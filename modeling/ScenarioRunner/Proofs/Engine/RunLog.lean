import ScenarioRunner.Proofs.Engine.ClassLog
import ScenarioRunner.Proofs.Engine.Foresight

/-!
# What a run tells

The events of a run, in the order in which they are told, against its plan.

* `Run.Engine` is how far the engine has come in its prelude, and what it has told.
* `Run.Keeps` is the invariant of a run: the engine follows its plan, and of every class that is not
  skipped something is kept.  `Run.Follows` is the case in which each class follows its plan.
* `Run.keeps_planned`, `Run.Keeps.step` and `Run.Keeps.consult` pass the invariant from step to step,
  if the turns of a class do; `Run.Proceeds.induct` gives it for every order of steps.
* `Run.followsBy_of_proceeds` is what is left of it for every order of steps in which no task is cut
  off, and `Run.follows_of_proceeds` is the case in which nothing is assumed of the backend.

A step tells events of one class only, or of the engine, so that the others keep theirs.
-/

namespace ScenarioRunner

namespace Run

variable {σ : Type} {b : Backend σ} {options : RunOptions} {request : RunRequest} {r r' : Run σ}
  {findings : Findings} {inv : ClassPlan → ClassRun → List Event → Prop}

/-- The events that the engine tells: its own, and those of classes that are skipped. -/
def isEngines (request : RunRequest) (e : Event) : Bool :=
  (request.placed false).all fun c => !e.subject.isWithinClass c.2

/-- The events so far of the class at a place. -/
def logOf (r : Run σ) (place : Nat) : List Event :=
  r.outside.events.filter fun e => e.subject.isWithinClass place

/-- The events so far of the engine. -/
def enginesLog (request : RunRequest) (r : Run σ) : List Event :=
  r.outside.events.filter (isEngines request)

/-- Events that only the engine tells are in its log. -/
lemma filter_enginesLog (request : RunRequest) (r : Run σ) {p : Event → Bool}
    (h : ∀ e, p e = true → isEngines request e = true) :
    (r.enginesLog request).filter p = r.outside.events.filter p := by
  rw [enginesLog, List.filter_filter]
  refine List.filter_congr fun e _ => ?_
  cases hp : p e with
  | false => rfl
  | true => rw [h e hp]; rfl

/-- At the end the engine has told its start, the classes that are skipped, and its end. -/
lemma cases_of_mem_enginesLog {result : NodeResult}
    (htold : r.enginesLog request =
      RunRequest.toldBy (request.prelude options) ++ [request.event (.finished result)])
    {e : Event} (he : e ∈ r.enginesLog request) :
    e = request.event .started ∨ (∃ c ∈ request.placed true, e = RunRequest.skippedEvent c) ∨
      e = request.event (.finished result) := by
  rw [htold, RunRequest.toldBy_prelude, List.mem_append, List.mem_cons, List.mem_map,
    List.mem_singleton] at he
  obtain (hstart | ⟨c, hc, rfl⟩) | hend := he
  · exact Or.inl hstart
  · exact Or.inr (Or.inl ⟨c, hc, rfl⟩)
  · exact Or.inr (Or.inr hend)

/-- Every event is told by the engine or by a class that runs. -/
lemma mem_enginesLog_or_mem_logOf (findings : Findings) (request : RunRequest) {e : Event}
    (he : e ∈ r.outside.events) :
    e ∈ r.enginesLog request ∨ ∃ P ∈ request.plans findings, e ∈ r.logOf P.place := by
  by_cases hengines : isEngines request e = true
  · exact Or.inl (List.mem_filter.mpr ⟨he, hengines⟩)
  · simp only [isEngines, List.all_eq_true, Bool.not_eq_true', not_forall,
      Bool.not_eq_false] at hengines
    obtain ⟨c, hc, hwithin⟩ := hengines
    exact Or.inr ⟨_, List.mem_map_of_mem hc, List.mem_filter.mpr ⟨he, hwithin⟩⟩

/-- An event of the engine is within no class that has a plan. -/
lemma not_isWithinClass_of_isEngines {e : Event} (h : isEngines request e = true) {P : ClassPlan}
    (hP : P ∈ request.plans findings) : e.subject.isWithinClass P.place = false := by
  obtain ⟨c, hc, rfl⟩ := List.mem_map.mp hP
  exact Bool.not_eq_true' _ ▸ List.all_eq_true.mp h c hc

/-- **How far the engine is**: in its prelude, where it has started some classes; behind it, when
every class is over; or at the end, which it has told last. -/
inductive Engine (options : RunOptions) (request : RunRequest) (r : Run σ) : Prop where
  | running {done todo : List EngineAction} (hplan : request.prelude options = done ++ todo)
    (hactions : r.actions = todo ++ [.awaitAll, .close])
    (htold : r.enginesLog request = RunRequest.toldBy done)
    (hwaiting : ∀ {k : Nat} {c : ClassRun}, r.classes[k]? = some c →
      (c.phase = .waiting ↔ .start k ∈ todo))
  | closing (hactions : r.actions = [.close])
    (htold : r.enginesLog request = RunRequest.toldBy (request.prelude options))
    (hover : ∀ c ∈ r.classes, c.isOver = true)
  | closed (hactions : r.actions = [])
    (htold : r.enginesLog request =
      RunRequest.toldBy (request.prelude options) ++
        [request.event (.finished (.ofVerdict r.verdict))])
    (hlast : ∃ front,
      r.outside.events = front ++ [request.event (.finished (.ofVerdict r.verdict))])
    (hover : ∀ c ∈ r.classes, c.isOver = true)

/-- **A run follows its plan**, and of every class that is not skipped something is kept. -/
structure Keeps (inv : ClassPlan → ClassRun → List Event → Prop) (findings : Findings)
    (options : RunOptions) (request : RunRequest) (r : Run σ) : Prop where
  root : r.root = request.root
  length : r.classes.length = (request.plans findings).length
  classes : ∀ {k : Nat} {P : ClassPlan}, (request.plans findings)[k]? = some P →
    ∃ c, r.classes[k]? = some c ∧ inv P c (r.logOf P.place)
  engine : r.Engine options request

/-- A run follows its plan, and so does every class that is not skipped. -/
abbrev Follows (findings : Findings) (options : RunOptions) (request : RunRequest) (r : Run σ) :
    Prop :=
  r.Keeps (ClassPlan.Follows options) findings options request

/-- A run before its first step keeps what is true of classes before theirs. -/
theorem keeps_planned (findings : Findings) (options : RunOptions) (request : RunRequest) (s : σ)
    (hinv : ∀ i node, inv (ClassPlan.ofNode (findings i) request.skip.contains i node)
      (ClassPlan.planned (findings i) options request.skip.contains i node) []) :
    (planned findings options request s).Keeps inv findings options request where
  root := rfl
  length := by rw [planned, RunRequest.plans, List.length_map, List.length_map]
  classes := by
    intro k P hk
    rw [RunRequest.plans, List.getElem?_map, Option.map_eq_some_iff] at hk
    obtain ⟨c, hc, rfl⟩ := hk
    refine ⟨_, by rw [planned, List.getElem?_map, hc]; rfl, ?_⟩
    exact hinv c.2 c.1
  engine := by
    refine @Engine.running σ options request (planned findings options request s) []
      (request.prelude options) rfl (RunRequest.actions_ofRequest options request s) rfl ?_
    intro k c hk
    rw [planned, List.getElem?_map, Option.map_eq_some_iff] at hk
    obtain ⟨n, hn, rfl⟩ := hk
    exact iff_of_true rfl (RunRequest.start_mem_prelude_iff.mpr (List.getElem?_eq_some_iff.mp hn).1)

namespace Keeps

lemma wellPlaced {P : ClassPlan} (hP : P ∈ request.plans findings) : P.WellPlaced := by
  obtain ⟨node, i, -, -, rfl⟩ := RunRequest.mem_plans.mp hP
  exact ClassPlan.wellPlaced_ofNode ..

lemma exists_plan (h : r.Keeps inv findings options request) {k : Nat} {c : ClassRun}
    (hk : r.classes[k]? = some c) :
    ∃ P, (request.plans findings)[k]? = some P ∧ inv P c (r.logOf P.place) := by
  have hlt := (List.getElem?_eq_some_iff.mp hk).1
  rw [h.length] at hlt
  have hP := List.getElem?_eq_getElem hlt
  obtain ⟨c', hk', hinv⟩ := h.classes hP
  obtain rfl := Option.some.inj (hk.symm.trans hk')
  exact ⟨_, hP, hinv⟩

/-- What follows of each class from what is kept of it is kept as well. -/
lemma imp {inv' : ClassPlan → ClassRun → List Event → Prop} (h : r.Keeps inv findings options request)
    (himp : ∀ {k : Nat} {P : ClassPlan} {c : ClassRun}, (request.plans findings)[k]? = some P →
      r.classes[k]? = some c → inv P c (r.logOf P.place) → inv' P c (r.logOf P.place)) :
    r.Keeps inv' findings options request where
  root := h.root
  length := h.length
  classes := by
    intro k P hP
    obtain ⟨c, hk, hinv⟩ := h.classes hP
    exact ⟨c, hk, himp hP hk hinv⟩
  engine := h.engine

/-- A step of one class leaves the others and the engine alone. -/
theorem of_class (h : r.Keeps inv findings options request) {k : Nat} {c c' : ClassRun} {P : ClassPlan}
    {o' : Outside σ} (hk : r.classes[k]? = some c) (hP : (request.plans findings)[k]? = some P)
    (hgoesOn : P.GoesOn inv c r.outside (r.logOf P.place) c' o') :
    ({ r.setClass k c' with outside := o' } : Run σ).Keeps inv findings options request := by
  obtain ⟨⟨actions, hrunning⟩, hgoes, more, hevents, hmore, hinv⟩ := hgoesOn
  have hlt := (List.getElem?_eq_some_iff.mp hk).1
  have hlog : ∀ place, ({ r.setClass k c' with outside := o' } : Run σ).logOf place =
      r.logOf place ++ more.filter fun e => e.subject.isWithinClass place := by
    intro place
    rw [logOf, logOf, ← List.filter_append, ← hevents]
  have hown : (more.filter fun e => e.subject.isWithinClass P.place) = more :=
    List.filter_eq_self.mpr hmore
  -- an event that is within one class is within no other class
  have hother : ∀ {k' : Nat} {P' : ClassPlan}, (request.plans findings)[k']? = some P' → k' ≠ k →
      (more.filter fun e => e.subject.isWithinClass P'.place) = [] := by
    intro k' P' hP' hne
    rw [List.filter_eq_nil_iff]
    intro e he hwithin
    have hplace : P'.place = P.place := Subject.eq_of_isWithinClass hwithin (hmore e he)
    exact hne (RunRequest.plan_injective hP' hP hplace)
  have hengines : ({ r.setClass k c' with outside := o' } : Run σ).enginesLog request =
      r.enginesLog request := by
    have hnil : more.filter (isEngines request) = [] := by
      rw [List.filter_eq_nil_iff]
      intro e he hengine
      have := not_isWithinClass_of_isEngines hengine (List.mem_of_getElem? hP)
      simp [hmore e he] at this
    rw [enginesLog, enginesLog, hevents, List.filter_append, hnil, List.append_nil]
  refine ⟨h.root, by rw [← h.length]; exact List.length_set, ?_, ?_⟩
  · intro k' P' hP'
    by_cases hkk : k' = k
    · subst hkk
      obtain rfl := Option.some.inj (hP.symm.trans hP')
      refine ⟨c', by simp [setClass, hlt], ?_⟩
      rw [hlog, hown]
      exact hinv
    · obtain ⟨d, hd, hinv'⟩ := h.classes hP'
      refine ⟨d, by simpa [setClass, Ne.symm hkk] using hd, ?_⟩
      rw [hlog, hother hP' hkk, List.append_nil]
      exact hinv'
  · have hnot : ¬ ∀ d ∈ r.classes, d.isOver = true := by
      intro hover
      have := hover c (List.mem_of_getElem? hk)
      simp [ClassRun.isOver, hrunning] at this
    cases h.engine with
    | closing _ _ hover => exact absurd hover hnot
    | closed _ _ _ hover => exact absurd hover hnot
    | running hplan hactions htold hwaiting =>
        refine .running hplan hactions (hengines.trans htold) ?_
        intro k' d hd
        by_cases hkk : k' = k
        · subst hkk
          obtain rfl : c' = d := by simpa [setClass, hlt] using hd
          refine iff_of_false hgoes fun hstart => ?_
          have := (hwaiting hk).mpr hstart
          rw [hrunning] at this
          exact absurd this (by simp)
        · exact hwaiting (by simpa [setClass, Ne.symm hkk] using hd)

/-! ## The engine -/

/-- What the engine tells in its prelude is within no class that runs. -/
lemma isEngines_of_mem_prelude {e : Event}
    (h : e ∈ RunRequest.toldBy (request.prelude options)) : isEngines request e = true := by
  rw [RunRequest.toldBy_prelude, List.mem_cons, List.mem_map] at h
  rw [isEngines, List.all_eq_true]
  rintro ⟨node, i⟩ hP
  obtain ⟨hchild, hskip⟩ := RunRequest.mem_placed.mp hP
  rcases h with rfl | ⟨⟨node', j⟩, hc, rfl⟩
  · rfl
  · obtain ⟨hchild', hskip'⟩ := RunRequest.mem_placed.mp hc
    rw [Bool.not_eq_true', Bool.eq_false_iff]
    intro hwithin
    obtain rfl : j = i := by
      simpa [RunRequest.skippedEvent, Subject.isWithinClass] using hwithin
    obtain rfl := Option.some.inj (hchild.symm.trans hchild')
    rw [hskip] at hskip'
    exact absurd hskip' (by simp)

lemma classes_emit (h : r.Keeps inv findings options request) {e : Event}
    (he : isEngines request e = true) {k : Nat} {P : ClassPlan}
    (hP : (request.plans findings)[k]? = some P) :
    ∃ c, r.classes[k]? = some c ∧
      inv P c ((r.outside.emit e).events.filter fun e => e.subject.isWithinClass P.place) := by
  obtain ⟨c, hk, hinv⟩ := h.classes hP
  refine ⟨c, hk, ?_⟩
  have hnot := not_isWithinClass_of_isEngines he (List.mem_of_getElem? hP)
  have hnil : ([e].filter fun e => e.subject.isWithinClass P.place) = [] := by
    simp [hnot]
  rw [Outside.emit, List.filter_append, hnil, List.append_nil]
  exact hinv

lemma enginesLog_emit {e : Event} (he : isEngines request e = true) :
    (r.outside.emit e).events.filter (isEngines request) = r.enginesLog request ++ [e] := by
  rw [Outside.emit, List.filter_append, List.filter_cons_of_pos he, List.filter_nil]
  rfl

lemma of_emit (h : r.Keeps inv findings options request) {done todo : List EngineAction} {e : Event}
    (hplan : request.prelude options = (done ++ [.emit e]) ++ todo)
    (htold : r.enginesLog request = RunRequest.toldBy done)
    (hwaiting : ∀ {k : Nat} {c : ClassRun}, r.classes[k]? = some c →
      (c.phase = .waiting ↔ .start k ∈ EngineAction.emit e :: todo)) :
    ({ r with actions := todo ++ [.awaitAll, .close], outside := r.outside.emit e } :
      Run σ).Keeps inv findings options request := by
  have hengines : isEngines request e = true := by
    have hmem : e ∈ RunRequest.toldBy (request.prelude options) := by
      rw [hplan, RunRequest.toldBy, List.mem_filterMap]
      exact ⟨.emit e, by simp, rfl⟩
    exact isEngines_of_mem_prelude hmem
  refine ⟨h.root, h.length, h.classes_emit hengines, .running hplan rfl ?_ ?_⟩
  · rw [RunRequest.toldBy_append, ← htold]
    exact enginesLog_emit hengines
  · intro k c hk
    rw [hwaiting hk, List.mem_cons]
    simp

lemma of_start (h : r.Keeps inv findings options request)
    (hbegin : ∀ {P c log}, inv P c log → inv P c.begin log) {done todo : List EngineAction} {k : Nat}
    (hplan : request.prelude options = done ++ .start k :: todo)
    (htold : r.enginesLog request = RunRequest.toldBy done)
    (hwaiting : ∀ {l : Nat} {c : ClassRun}, r.classes[l]? = some c →
      (c.phase = .waiting ↔ .start l ∈ EngineAction.start k :: todo)) :
    ({ r with
      actions := todo ++ [.awaitAll, .close]
      classes := r.classes.modify k ClassRun.begin } : Run σ).Keeps inv findings options request := by
  have hplan' : request.prelude options = (done ++ [.start k]) ++ todo := by
    rw [hplan, List.append_assoc]
    rfl
  refine ⟨h.root, by rw [← h.length]; exact List.length_modify _ _ _, ?_,
    .running hplan' rfl ?_ ?_⟩
  · intro l P hP
    obtain ⟨c, hc, hinv⟩ := h.classes hP
    by_cases hkl : k = l
    · subst hkl
      exact ⟨c.begin, by rw [List.getElem?_modify, hc]; simp, hbegin hinv⟩
    · exact ⟨c, by rw [List.getElem?_modify, hc]; simp [hkl], hinv⟩
  · rw [RunRequest.toldBy_append, ← htold]
    exact (List.append_nil _).symm
  · intro l c hl
    dsimp only at hl
    rw [List.getElem?_modify, Option.map_eq_map, Option.map_eq_some_iff] at hl
    obtain ⟨d, hd, rfl⟩ := hl
    have hold := hwaiting hd
    rw [List.mem_cons, EngineAction.start.injEq] at hold
    by_cases hkl : k = l
    · subst hkl
      rw [if_pos rfl]
      refine iff_of_false ?_ (RunRequest.start_not_mem_of_prelude hplan)
      rw [ClassRun.begin, hold.mpr (Or.inl rfl)]
      exact ClassPhase.noConfusion
    · rw [if_neg hkl, hold]
      exact or_iff_right (Ne.symm hkl)

/-- **A step of the engine.** -/
theorem of_engine (h : r.Keeps inv findings options request)
    (hbegin : ∀ {P c log}, inv P c log → inv P c.begin log)
    (hadvance : r.advance? b options .engine = some r') : r'.Keeps inv findings options request := by
  cases h.engine with
  | closed hactions => simp [advance?, hactions] at hadvance
  | closing hactions htold hover =>
      simp only [advance?, hactions, act, Option.some.injEq] at hadvance
      subst hadvance
      have hengines : isEngines request
          (request.event (.finished (.ofVerdict r.verdict))) = true := by
        rw [isEngines, List.all_eq_true]
        exact fun P _ => rfl
      rw [h.root]
      refine ⟨rfl, h.length, h.classes_emit hengines, .closed rfl ?_ ⟨r.outside.events, rfl⟩ hover⟩
      rw [← htold]
      exact enginesLog_emit hengines
  | @running done todo hplan hactions htold hwaiting =>
      cases todo with
      | nil =>
          rw [List.append_nil] at hplan
          simp only [advance?, hactions, List.nil_append, act] at hadvance
          split at hadvance
          · next hover =>
            obtain rfl := Option.some.inj hadvance
            refine ⟨h.root, h.length, h.classes, .closing rfl (hplan ▸ htold) ?_⟩
            exact fun c hc => List.all_eq_true.mp hover c hc
          · exact absurd hadvance (by simp)
      | cons action todo =>
          have hmem : action ∈ request.prelude options := by
            rw [hplan]
            simp
          simp only [advance?, hactions, List.cons_append] at hadvance
          rcases RunRequest.cases_of_mem_prelude hmem with ⟨e, rfl⟩ | ⟨k, rfl⟩
          · obtain rfl := Option.some.inj hadvance
            exact h.of_emit (by rw [hplan, List.append_assoc]; rfl) htold hwaiting
          · obtain rfl := Option.some.inj hadvance
            exact h.of_start hbegin hplan htold hwaiting

end Keeps

/-! ## Turns -/

/-- What becomes of a class when one of its tasks has a turn: the task of the class or of a scenario
makes a step, or that of a scenario is cut off. -/
inductive Turn (b : Backend σ) (options : RunOptions) (r : Run σ) (k : Nat) (c : ClassRun) :
    Choice → ClassRun → Outside σ → Prop where
  | task {c' : ClassRun} {o' : Outside σ} (hadvance : c.advance? b r.outside = some (c', o')) :
    Turn b options r k c (.advance (.classTask k)) c' o'
  | scenario {l : Nat} {c' : ClassRun} {o' : Outside σ}
    (hadvance : c.advanceScenario? b options l r.outside = some (c', o')) :
    Turn b options r k c (.advance (.scenarioTask k l)) c' o'
  | cut {l : Nat} {reason : String} {c' : ClassRun}
    (hcrash : c.crashScenario? l reason = some c') :
    Turn b options r k c (.crash (.scenarioTask k l) reason) c' r.outside

/-- **A step keeps what the turns of classes keep.** -/
theorem Keeps.step (h : r.Keeps inv findings options request) {choice : Choice} (hmild : choice.IsMild)
    (hstep : r.step? b options choice = some r')
    (hbegin : ∀ {P c log}, inv P c log → inv P c.begin log)
    (hturn : ∀ {k P c c' o'}, (request.plans findings)[k]? = some P → r.classes[k]? = some c →
      inv P c (r.logOf P.place) → r.Turn b options k c choice c' o' →
      P.GoesOn inv c r.outside (r.logOf P.place) c' o') : r'.Keeps inv findings options request := by
  cases choice with
  | advance actor =>
      cases actor with
      | engine => exact h.of_engine (b := b) hbegin hstep
      | classTask k =>
          rw [step?] at hstep
          obtain ⟨c, c', o', hk, hadvance, rfl⟩ := advance_classTask_iff.mp hstep
          obtain ⟨P, hP, hinv⟩ := h.exists_plan hk
          exact h.of_class hk hP (hturn hP hk hinv (.task hadvance))
      | scenarioTask k l =>
          rw [step?] at hstep
          obtain ⟨c, c', o', hk, hadvance, rfl⟩ := advance_scenarioTask_iff.mp hstep
          obtain ⟨P, hP, hinv⟩ := h.exists_plan hk
          exact h.of_class hk hP (hturn hP hk hinv (.scenario hadvance))
  | crash actor reason =>
      cases actor with
      | engine => exact hmild.elim
      | classTask k => exact hmild.elim
      | scenarioTask k l =>
          rw [step?] at hstep
          obtain ⟨c, c', hk, hcrash, rfl⟩ := crash_scenarioTask_iff.mp hstep
          obtain ⟨P, hP, hinv⟩ := h.exists_plan hk
          exact h.of_class hk hP (hturn hP hk hinv (.cut hcrash))

/-- A search of the task of a class keeps all but the state of the backend. -/
lemma Keeps.consult (h : r.Keeps inv findings options request) (s : σ) :
    ({ r with outside := { r.outside with backend := s } } : Run σ).Keeps inv findings options
      request where
  root := h.root
  length := h.length
  classes := h.classes
  engine := by
    cases h.engine with
    | running hplan hactions htold hwaiting => exact .running hplan hactions htold hwaiting
    | closing hactions htold hover => exact .closing hactions htold hover
    | closed hactions htold hlast hover => exact .closed hactions htold hlast hover

section Steps

variable {stage : Job → Phase → List Event → Prop} (hcourse : Job.Course stage)
  (hpasses : ∀ {job : Job} {phase phase' : Phase} {scope scope' : ClassScope} {o o' : Outside σ},
    ClassRun.ScenarioStep b options job phase scope o phase' scope' o' →
      job.Passes stage phase o phase' o')

include hcourse hpasses

/-- A turn in which no task is cut off keeps a class on its plan. -/
lemma goesOn_by_of_turn {k : Nat} {P : ClassPlan} {c c' : ClassRun} {o' : Outside σ} {actor : Actor}
    {log : List Event} (hP : P ∈ request.plans findings) (h : P.FollowsBy stage options c log)
    (hturn : r.Turn b options k c (.advance actor) c' o') :
    P.GoesOn (ClassPlan.FollowsBy stage options) c r.outside log c' o' := by
  cases hturn with
  | task hadvance => exact h.task hcourse (Keeps.wellPlaced hP) hadvance
  | scenario hadvance =>
      obtain ⟨job, phase, phase', scope', hl, hstep, rfl⟩ :=
        ClassRun.scenarioStep_of_advance hadvance
      exact h.scenario hcourse (Keeps.wellPlaced hP) hl (.step hstep) (hpasses hstep)

/-- **Every run** follows its plan if no task is cut off, in which each job tells what its course
says. -/
theorem followsBy_of_proceeds {s : σ} {choices : List Choice}
    (hproceeds : Proceeds (fun _ => Choice.IsQuiet) b options (planned findings options request s)
      choices r) : r.Keeps (ClassPlan.FollowsBy stage options) findings options request := by
  refine hproceeds.induct (keeps_planned findings options request s fun i node => ?_) ?_
    fun h _ => h.consult _
  · exact ClassPlan.followsBy_planned hcourse (findings i) options request.skip.contains i node
  · rintro r r' _ h ⟨actor, rfl⟩ hstep
    have hmild : (Choice.advance actor).IsMild := trivial
    refine h.step hmild hstep (fun h => h.begin) fun hP _ hfollows hturn => ?_
    exact goesOn_by_of_turn hcourse hpasses (List.mem_of_getElem? hP) hfollows hturn

end Steps

/-- A turn in which no task is cut off, whatever the backend answers. -/
lemma goesOn_of_turn {k : Nat} {P : ClassPlan} {c c' : ClassRun} {o' : Outside σ} {actor : Actor}
    {log : List Event} (hP : P ∈ request.plans findings) (h : P.Follows options c log)
    (hturn : r.Turn b options k c (.advance actor) c' o') :
    P.GoesOn (ClassPlan.Follows options) c r.outside log c' o' :=
  goesOn_by_of_turn (Job.course_stageBy ..)
    (fun hstep => Job.StageBy.passes hstep (Job.replies_trivial ..)) hP h hturn

/-- **Every run** follows its plan if no task is cut off. -/
theorem follows_of_proceeds {s : σ} {choices : List Choice}
    (hproceeds : Proceeds (fun _ => Choice.IsQuiet) b options (planned findings options request s)
      choices r) : r.Follows findings options request :=
  followsBy_of_proceeds (Job.course_stageBy ..)
    (fun hstep => Job.StageBy.passes hstep (Job.replies_trivial ..)) hproceeds

end Run

end ScenarioRunner
