import Mathlib.Order.WellFounded
import ScenarioRunner.Proofs.Engine.RunLog

/-!
# Runs are completed

A run in which no task is cut off comes to an end whichever way its tasks are scheduled, and at its
end the engine, the classes and their scenarios are all done.

* `Run.Keeps.closed_of_stuck`: the engine of a run that is stuck has told its end.
* `Run.Keeps.finished_of_stuck`: such a run is complete, if no task of a class was cut off;
  `Run.Keeps.done_of_stuck` has that from gates of its capacity, which can be made.
* `Run.exists_stuck`: every run goes on until it is stuck, and `Run.not_endless`: no run goes on for
  ever.
-/

namespace ScenarioRunner

namespace Run

variable {σ : Type} {b : Backend σ} {options : RunOptions} {request : RunRequest} {findings : Findings}
  {r r' : Run σ}

/-- The engine, the classes and their scenarios are all done. -/
def isOver (r : Run σ) : Bool :=
  r.actions.isEmpty &&
    r.classes.all fun c => c.isOver && c.scenarios.all fun s => !s.phase.isCounted

/-! ## Runs that are stuck -/

/-- When everything is done, no task can go on. -/
lemma stuck_of_isOver (h : r.isOver = true) : r.Stuck b options := by
  obtain ⟨hactions, hclasses⟩ := Bool.and_eq_true_iff.mp h
  have hclass : ∀ {k : Nat} {c : ClassRun}, r.classes[k]? = some c →
      c.isOver = true ∧ ∀ s ∈ c.scenarios, s.phase.isCounted = false := by
    intro k c hk
    have hc := List.all_eq_true.mp hclasses c (List.mem_of_getElem? hk)
    obtain ⟨hover, hscenarios⟩ := Bool.and_eq_true_iff.mp hc
    exact ⟨hover, fun s hs => by simpa using List.all_eq_true.mp hscenarios s hs⟩
  intro actor
  cases actor with
  | engine => simp [advance?, List.isEmpty_iff.mp hactions]
  | classTask k =>
      cases hk : r.classes[k]? with
      | none => simp [advance?, hk]
      | some c =>
          have hover := (hclass hk).1
          have hnone : c.advance? b r.outside = none := by
            unfold ClassRun.isOver at hover
            unfold ClassRun.advance?
            split at hover <;> simp_all
          simp [advance?, hk, hnone]
  | scenarioTask k l =>
      cases hk : r.classes[k]? with
      | none => simp [advance?, hk]
      | some c =>
          have hnone : c.advanceScenario? b options l r.outside = none := by
            cases hl : c.scenarios[l]? with
            | none => simp [ClassRun.advanceScenario?, hl]
            | some s =>
                obtain ⟨job, phase⟩ := s
                have hcounted := (hclass hk).2 _ (List.mem_of_getElem? hl)
                cases phase with
                | done => simp [ClassRun.advanceScenario?, hl]
                | _ => exact absurd hcounted.symm Bool.false_ne_true
          simp [advance?, hk, hnone]

namespace Keeps

variable {inv : ClassPlan → ClassRun → List Event → Prop}
  (hfollows : ∀ {P c log}, inv P c log → ∃ stage, P.FollowsBy stage options c log)

include hfollows

/-- A class of a run that is stuck is over, unless it has not started. -/
lemma class_of_stuck (h : r.Keeps inv findings options request) (hstuck : r.Stuck b options) {k : Nat}
    {c : ClassRun} (hk : r.classes[k]? = some c) :
    c.phase = .waiting ∨ c.phase = .crashed ∨
      (∃ verdict, c.phase = .finished verdict) ∧
        ∀ (l : Nat) (s : ScenarioRun), c.scenarios[l]? = some s → s.phase = .done := by
  obtain ⟨P, -, hinv⟩ := h.exists_plan hk
  obtain ⟨stage, hfollows⟩ := hfollows hinv
  obtain ⟨reached, hlinked⟩ := hfollows.linked
  have hcapacity : 0 < c.scope.capacity := by
    rw [hfollows.capacity]
    omega
  exact hlinked.cases_of_stuck hfollows.balanced hcapacity (hstuck.classTask hk)
    (hstuck.scenarioTask hk)

/-- **The engine of a run that is stuck** has told its end, and every class is over: it waits only
for classes that can go on. -/
theorem closed_of_stuck (h : r.Keeps inv findings options request) (hstuck : r.Stuck b options) :
    (r.enginesLog request =
        RunRequest.toldBy (request.prelude options) ++
          [request.event (.finished (.ofVerdict r.verdict))] ∧
      ∃ front,
        r.outside.events = front ++ [request.event (.finished (.ofVerdict r.verdict))]) ∧
    ∀ c ∈ r.classes, c.isOver = true := by
  have hnone := hstuck .engine
  cases h.engine with
  | closing hactions => simp [advance?, hactions, act] at hnone
  | closed hactions htold hlast hover => exact ⟨⟨htold, hlast⟩, hover⟩
  | @running done todo hplan hactions htold hwaiting =>
      cases todo with
      | cons action todo =>
          have hmem : action ∈ request.prelude options := by
            rw [hplan]
            simp
          simp only [advance?, hactions, List.cons_append] at hnone
          rcases RunRequest.cases_of_mem_prelude hmem with ⟨e, rfl⟩ | ⟨k, rfl⟩
          · exact absurd hnone (by simp [act])
          · exact absurd hnone (by simp [act])
      | nil =>
          simp only [advance?, hactions, List.nil_append, act] at hnone
          split at hnone
          · exact absurd hnone (by simp)
          · next hover =>
            refine absurd (List.all_eq_true.mpr fun c hc => ?_) hover
            obtain ⟨k, hk⟩ := List.getElem?_of_mem hc
            rcases h.class_of_stuck hfollows hstuck hk with hphase | hphase | ⟨⟨verdict, hphase⟩, -⟩
            · exact absurd ((hwaiting hk).mp hphase) List.not_mem_nil
            · simp [ClassRun.isOver, hphase]
            · simp [ClassRun.isOver, hphase]

/-- **A run that is stuck is complete**, if no task of a class was cut off: the engine has told its
end, and every class is finished with all of its scenarios. -/
theorem finished_of_stuck (h : r.Keeps inv findings options request) (hstuck : r.Stuck b options)
    (hcrashed : ∀ c ∈ r.classes, c.phase ≠ .crashed) :
    (r.enginesLog request =
        RunRequest.toldBy (request.prelude options) ++
          [request.event (.finished (.ofVerdict r.verdict))] ∧
      ∃ front,
        r.outside.events = front ++ [request.event (.finished (.ofVerdict r.verdict))]) ∧
    ∀ (k : Nat) (c : ClassRun), r.classes[k]? = some c →
      (∃ verdict, c.phase = .finished verdict) ∧
        ∀ (l : Nat) (s : ScenarioRun), c.scenarios[l]? = some s → s.phase = .done := by
  obtain ⟨htold, hover⟩ := h.closed_of_stuck hfollows hstuck
  refine ⟨htold, fun k c hk => ?_⟩
  rcases h.class_of_stuck hfollows hstuck hk with hwaiting | hphase | hdone
  · have := hover c (List.mem_of_getElem? hk)
    simp [ClassRun.isOver, hwaiting] at this
  · exact absurd hphase (hcrashed c (List.mem_of_getElem? hk))
  · exact hdone

/-- No class is cut off if gates of the capacity can be made. -/
lemma not_crashed (h : r.Keeps inv findings options request)
    (hlimit : max options.concurrency 1 ≤ ClassScope.limit) {c : ClassRun} (hc : c ∈ r.classes) :
    c.phase ≠ .crashed := by
  intro hphase
  obtain ⟨k, hk⟩ := List.getElem?_of_mem hc
  obtain ⟨P, -, hinv⟩ := h.exists_plan hk
  obtain ⟨stage, hclass⟩ := hfollows hinv
  have := hclass.gate hphase
  omega

/-- **A run that is stuck is complete**, if gates of its capacity can be made. -/
theorem done_of_stuck (h : r.Keeps inv findings options request) (hstuck : r.Stuck b options)
    (hlimit : max options.concurrency 1 ≤ ClassScope.limit) :
    (r.enginesLog request =
        RunRequest.toldBy (request.prelude options) ++
          [request.event (.finished (.ofVerdict r.verdict))] ∧
      ∃ front,
        r.outside.events = front ++ [request.event (.finished (.ofVerdict r.verdict))]) ∧
    ∀ (k : Nat) (c : ClassRun), r.classes[k]? = some c →
      (∃ verdict, c.phase = .finished verdict) ∧
        ∀ (l : Nat) (s : ScenarioRun), c.scenarios[l]? = some s → s.phase = .done :=
  h.finished_of_stuck hfollows hstuck fun _ hc => h.not_crashed hfollows hlimit hc

end Keeps

/-! ## Runs come to an end -/

lemma wellFounded_closer : WellFounded (@Closer σ) :=
  Subrelation.wf (fun h => lex_of_closer h)
    (InvImage.wf (fun r : Run σ => (r.ahead, r.coarse, r.fine))
      (Prod.lex Nat.lt_wfRel (Prod.lex Nat.lt_wfRel Nat.lt_wfRel)).wf)

/-- **No run goes on for ever.** -/
theorem not_endless (b : Backend σ) (options : RunOptions) (f : Nat → Run σ) :
    ¬ ∀ n, ∃ actor, (f n).advance? b options actor = some (f (n + 1)) := by
  intro h
  obtain ⟨n, hn⟩ := @WellFounded.not_rel_apply_succ _ _ ⟨wellFounded_closer⟩ f
  obtain ⟨actor, hadvance⟩ := h n
  have hstep : (f n).step? b options (.advance actor) = some (f (n + 1)) := hadvance
  exact hn (closer_of_step? hstep)

/-- Every run goes on until it is stuck. -/
theorem exists_stuck (b : Backend σ) (options : RunOptions) (r : Run σ) :
    ∃ choices r', Reaches b options r choices r' ∧ Quiet choices ∧ r'.Stuck b options := by
  induction r using wellFounded_closer.induction with
  | _ r ih =>
      by_cases hstuck : r.Stuck b options
      · exact ⟨[], r, .refl r, by simp [Quiet], hstuck⟩
      · obtain ⟨actor, hactor⟩ := not_forall.mp hstuck
        obtain ⟨next, hnext⟩ := Option.ne_none_iff_exists'.mp hactor
        have hstep : r.step? b options (.advance actor) = some next := hnext
        obtain ⟨choices, r', hreaches, hquiet, hstuck'⟩ := ih next (closer_of_step? hstep)
        refine ⟨.advance actor :: choices, r', .step hstep hreaches, ?_, hstuck'⟩
        intro choice hchoice
        rcases List.mem_cons.mp hchoice with rfl | hchoice
        · exact ⟨actor, rfl⟩
        · exact hquiet choice hchoice

end Run

end ScenarioRunner
