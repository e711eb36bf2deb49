import ScenarioRunner.Engine.Schedule
import ScenarioRunner.Proofs.Engine.Isolation

/-!
# Runs that are carried out

`Run.execute` asks the engine, the classes and the scenarios in its queue, and stops when none of
them can go on.

* `Run.Queued` is the invariant of the queue: every scenario whose task was launched is in it.
  `Run.Queued.advance` passes it from step to step.
* `Run.Queued.stuck`: if no task that is asked can go on, then no task can.
* `Run.exists_execute`: what is carried out before a listener that rejects nothing is stuck, and no
  task was cut off.
* `Run.completes_execute`: it has come to its end if gates of its capacity can be made.
-/

namespace ScenarioRunner

variable {σ : Type} {b : Backend σ} {options : RunOptions}

/-! ## Tasks that are launched -/

namespace ClassRun

variable {c c' : ClassRun} {o o' : Outside σ} {l : Nat} {s' : ScenarioRun}

/-- The task of a class launches scenarios only by starting them. -/
lemma launched_of_advance (h : c.advance? b o = some (c', o')) (hl : c'.scenarios[l]? = some s')
    (hlaunched : s'.phase.isLaunched = true) :
    (∃ s, c.scenarios[l]? = some s ∧ s.phase.isLaunched = true) ∨
      ∃ rest, c.phase = .running (.start l :: rest) := by
  have hturn := taskTurn_of_advance h
  generalize c.lookup? b o.backend = found? at hturn
  cases hturn with
  | asked => exact Or.inl ⟨s', hl, hlaunched⟩
  | @settled _ candidate _ found =>
      cases found with
      | error e => exact Or.inl ⟨s', hl, hlaunched⟩
      | ok environment =>
          -- the scenario that has been found waits
          rcases Nat.lt_or_ge l c.scenarios.length with hlt | hge
          · exact Or.inl ⟨s', (List.getElem?_append_left hlt).symm.trans hl, hlaunched⟩
          · have hmem := List.mem_of_getElem? ((List.getElem?_append_right hge).symm.trans hl)
            rw [List.mem_singleton.mp hmem] at hlaunched
            exact absurd hlaunched Bool.false_ne_true
  | launched => exact Or.inl ⟨s', hl, hlaunched⟩
  | @plain action rest _ _ hphase hplain hact =>
      cases action with
      | askDefault candidate => exact absurd hplain.1 (by simp [ClassAction.candidate?])
      | lookUp candidate name => exact absurd hplain.1 (by simp [ClassAction.candidate?])
      | launch => exact absurd rfl hplain.2
      | grant k =>
          simp only [act, Option.map_eq_some_iff, Prod.mk.injEq] at hact
          obtain ⟨scope, -, rfl, -⟩ := hact
          rw [getElem?_changePhase, Option.map_eq_some_iff] at hl
          obtain ⟨s, hs, rfl⟩ := hl
          refine Or.inl ⟨s, hs, ?_⟩
          split at hlaunched
          · cases hbefore : s.phase <;> simp_all [Phase.grant, Phase.isLaunched]
          · exact hlaunched
      | start k =>
          simp only [act, Option.some.injEq, Prod.mk.injEq] at hact
          obtain ⟨rfl, -⟩ := hact
          rw [getElem?_changePhase, Option.map_eq_some_iff] at hl
          obtain ⟨s, hs, rfl⟩ := hl
          split at hlaunched
          · next hkl => exact Or.inr ⟨rest, hkl ▸ hphase⟩
          · exact Or.inl ⟨s, hs, hlaunched⟩
      | openGate | awaitAll =>
          simp only [act] at hact
          split at hact <;> simp only [Option.some.injEq, Prod.mk.injEq, reduceCtorEq] at hact
          all_goals
            obtain ⟨rfl, -⟩ := hact
            exact Or.inl ⟨s', hl, hlaunched⟩
      | _ =>
          simp only [act, Option.some.injEq, Prod.mk.injEq] at hact
          obtain ⟨rfl, -⟩ := hact
          exact Or.inl ⟨s', hl, hlaunched⟩

/-- A task that was not launched cannot go on. -/
lemma advanceScenario?_of_not_launched {s : ScenarioRun} (hl : c.scenarios[l]? = some s)
    (hlaunched : ¬ s.phase.isLaunched = true) : c.advanceScenario? b options l o = none := by
  obtain ⟨job, phase⟩ := s
  rw [advanceScenario?, hl]
  cases phase with
  | waiting => rfl
  | granted => rfl
  | _ => exact absurd rfl hlaunched

lemma scenarios_begin (c : ClassRun) : c.begin.scenarios = c.scenarios := by
  unfold begin
  split <;> rfl

end ClassRun

namespace Run

variable {r r' : Run σ} {queue actors : List Actor} {actor : Actor} {request : RunRequest} {s : σ}

/-! ## The queue -/

/-- **Every scenario whose task was launched** is in the queue. -/
def Queued (queue : List Actor) (r : Run σ) : Prop :=
  ∀ (k l : Nat) (c : ClassRun) (s : ScenarioRun), r.classes[k]? = some c →
    c.scenarios[l]? = some s → s.phase.isLaunched = true → .scenarioTask k l ∈ queue

lemma queued_ofRequest : (ofRequest options request s).Queued [] := by
  intro k l c s hk hl hlaunched
  rw [RunRequest.classes_ofRequest, List.getElem?_map, Option.map_eq_some_iff] at hk
  obtain ⟨n, -, rfl⟩ := hk
  exact absurd hl (by simp [ClassRun.ofNode])

lemma scenarioTask_mem_actors {k l : Nat} (h : .scenarioTask k l ∈ r.actors queue) :
    .scenarioTask k l ∈ queue := by
  simpa [actors] using h

lemma choiceOf_quiet (r : Run σ) (actor : Actor) : r.choiceOf .quiet actor = .advance actor := by
  unfold choiceOf
  cases r.nextEvent? actor <;> rfl

/-- Among the tasks that are asked, the one that goes on. -/
lemma of_next? {choice : Choice} (h : r.next? b options .quiet actors = some (actor, choice, r')) :
    actor ∈ actors ∧ choice = .advance actor ∧ r.advance? b options actor = some r' := by
  induction actors with
  | nil => exact absurd h (by simp [next?])
  | cons a rest ih =>
      rw [next?, choiceOf_quiet] at h
      split at h
      · next r'' hstep =>
        simp only [Option.some.injEq, Prod.mk.injEq] at h
        obtain ⟨rfl, rfl, rfl⟩ := h
        exact ⟨List.mem_cons_self, rfl, hstep⟩
      · obtain ⟨hmem, hrest⟩ := ih h
        exact ⟨List.mem_cons_of_mem _ hmem, hrest⟩

lemma advance?_of_next?_eq_none (h : r.next? b options .quiet actors = none)
    (hmem : actor ∈ actors) : r.advance? b options actor = none := by
  induction actors with
  | nil => exact absurd hmem List.not_mem_nil
  | cons a rest ih =>
      rw [next?, choiceOf_quiet] at h
      split at h
      · exact absurd h (by simp)
      · next hstep =>
        rcases List.mem_cons.mp hmem with rfl | hmem
        · exact hstep
        · exact ih h hmem

namespace Queued

/-- **No task can go on** if none of those that are asked can. -/
theorem stuck (hqueued : r.Queued queue) (h : r.next? b options .quiet (r.actors queue) = none) :
    r.Stuck b options := by
  intro actor
  cases actor with
  | engine => exact advance?_of_next?_eq_none h List.mem_cons_self
  | classTask k =>
      by_cases hlt : k < r.classes.length
      · exact advance?_of_next?_eq_none h (by simp [actors, hlt])
      · simp [advance?, List.getElem?_eq_none (Nat.le_of_not_lt hlt)]
  | scenarioTask k l =>
      by_cases hmem : .scenarioTask k l ∈ queue
      · exact advance?_of_next?_eq_none h (by simp [actors, hmem])
      · cases hk : r.classes[k]? with
        | none => simp [advance?, hk]
        | some c =>
            have hnone : c.advanceScenario? b options l r.outside = none := by
              cases hl : c.scenarios[l]? with
              | none => simp [ClassRun.advanceScenario?, hl]
              | some s =>
                  exact ClassRun.advanceScenario?_of_not_launched hl fun hlaunched =>
                    hmem (hqueued k l c s hk hl hlaunched)
            simp [advance?, hk, hnone]

/-- The engine launches no scenario. -/
lemma engine (hqueued : r.Queued queue) (h : r.advance? b options .engine = some r') :
    r'.Queued queue := by
  simp only [advance?] at h
  split at h
  · next action rest _ =>
    cases action with
    | start k =>
        obtain rfl := Option.some.inj h
        intro k' l c' s hk' hl hlaunched
        dsimp only at hk'
        rw [List.getElem?_modify, Option.map_eq_map, Option.map_eq_some_iff] at hk'
        obtain ⟨c, hk, rfl⟩ := hk'
        split at hl
        · rw [ClassRun.scenarios_begin] at hl
          exact hqueued k' l c s hk hl hlaunched
        · exact hqueued k' l c s hk hl hlaunched
    | awaitAll =>
        simp only [act] at h
        split at h
        · obtain rfl := Option.some.inj h
          exact hqueued
        · exact absurd h (by simp)
    | _ =>
        obtain rfl := Option.some.inj h
        exact hqueued
  · exact absurd h (by simp)

/-- A class in which only scenarios of the queue have been launched. -/
lemma setClass (hqueued : r.Queued queue) {k : Nat} {c' : ClassRun} {o' : Outside σ}
    (hclass : ∀ (l : Nat) (s : ScenarioRun), c'.scenarios[l]? = some s →
      s.phase.isLaunched = true → .scenarioTask k l ∈ queue) :
    ({ r.setClass k c' with outside := o' } : Run σ).Queued queue := by
  intro k' l d s hk' hl hlaunched
  dsimp only [Run.setClass] at hk'
  by_cases hkk : k = k'
  · subst hkk
    obtain ⟨-, rfl⟩ : k < r.classes.length ∧ c' = d := by simpa [List.getElem?_set] using hk'
    exact hclass l s hl hlaunched
  · rw [List.getElem?_set_ne hkk] at hk'
    exact hqueued k' l d s hk' hl hlaunched

/-- **A step of a task that is asked.**  A scenario that it launches joins the queue. -/
theorem advance (hqueued : r.Queued queue) (hmem : actor ∈ r.actors queue)
    (h : r.advance? b options actor = some r') :
    r'.Queued (queue ++ (r.started? actor).toList) := by
  have hmore : r.Queued (queue ++ (r.started? actor).toList) := fun k l c s hk hl hlaunched =>
    List.mem_append_left _ (hqueued k l c s hk hl hlaunched)
  cases actor with
  | engine => exact hmore.engine h
  | classTask k =>
      obtain ⟨c, c', o', hk, hadvance, rfl⟩ := advance_classTask_iff.mp h
      refine hmore.setClass fun l s' hl hlaunched => ?_
      obtain ⟨s, hs, hbefore⟩ | ⟨rest, hphase⟩ :=
        ClassRun.launched_of_advance hadvance hl hlaunched
      · exact hmore k l c s hk hs hbefore
      · simp [started?, hk, hphase]
  | scenarioTask k l =>
      obtain ⟨c, c', o', hk, hadvance, rfl⟩ := advance_scenarioTask_iff.mp h
      obtain ⟨job, phase, phase', scope', hs, -, rfl⟩ := ClassRun.scenarioStep_of_advance hadvance
      refine hmore.setClass fun l' s' hl' hlaunched => ?_
      by_cases hll : l' = l
      · subst hll
        exact List.mem_append_left _ (scenarioTask_mem_actors hmem)
      · rw [ClassRun.setPhase, ClassRun.getElem?_changePhase_ne _ hll] at hl'
        exact hmore k l' c s' hk hl' hlaunched

end Queued

/-! ## To the end -/

/-- What is carried out from a run on is stuck, and no task was cut off. -/
theorem exists_drive {queue : List Actor} {r : Run σ} (hqueued : r.Queued queue) :
    ∃ choices, Reaches b options r choices (drive b options .quiet queue r) ∧ Quiet choices ∧
      (drive b options .quiet queue r).Stuck b options := by
  induction queue, r using drive.induct b options .quiet with
  | case1 queue r h =>
      have heq : drive b options .quiet queue r = r := by
        unfold drive
        split
        · rfl
        · next h' => simp [h] at h'
      rw [heq]
      exact ⟨[], .refl r, by simp [Quiet], hqueued.stuck h⟩
  | case2 queue r actor choice r' h closer ih =>
      obtain ⟨hmem, rfl, hadvance⟩ := of_next? h
      have heq : drive b options .quiet queue r =
          drive b options .quiet (queue ++ (r.started? actor).toList) r' := by
        conv_lhs => unfold drive
        split
        · next h' => simp [h] at h'
        · next h' =>
          rw [h] at h'
          simp only [Option.some.injEq, Prod.mk.injEq] at h'
          obtain ⟨rfl, -, rfl⟩ := h'
          rfl
      obtain ⟨choices, hreaches, hquiet, hstuck⟩ := ih (hqueued.advance hmem hadvance)
      rw [heq]
      refine ⟨.advance actor :: choices, .step hadvance hreaches, ?_, hstuck⟩
      exact List.forall_mem_cons.mpr ⟨⟨actor, rfl⟩, hquiet⟩

variable (b options request s)

/-- **What is carried out** before a listener that rejects nothing is stuck, and no task was cut
off. -/
theorem exists_execute :
    ∃ choices,
      Reaches b options (ofRequest options request s) choices
          (execute b options .quiet request s) ∧
        Quiet choices ∧ (execute b options .quiet request s).Stuck b options :=
  exists_drive queued_ofRequest

/-- **What is carried out comes to its end**, if gates of its capacity can be made. -/
theorem completes_execute (hlimit : max options.concurrency 1 ≤ ClassScope.limit) :
    Completes b options request s (execute b options .quiet request s) := by
  obtain ⟨choices, hreaches, hquiet, hstuck⟩ := exists_execute b options request s
  exact ⟨hlimit, ⟨choices, hreaches, hquiet⟩, hstuck⟩

end Run

end ScenarioRunner
