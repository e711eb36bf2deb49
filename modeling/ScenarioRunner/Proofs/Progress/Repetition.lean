import ScenarioRunner.Proofs.Progress.Reachable
import ScenarioRunner.Proofs.Progress.RetryWindow

/-!
# Repeated snapshots

A backend may send a snapshot again.  This file says that a tracker does not notice: no step moves, and
what it knows is the same.

* `StepReport.taken_again`: a report changes nothing where it has been taken.
* `Board.Reflects`: the board shows what a snapshot says, and `Tracker.Reachable.reflects` that it does
  so in every state for the snapshot that was observed last.
* `Tracker.Pass.Idle` is the invariant of the walk with a snapshot that the board reflects.
* `Tracker.Reachable.observe_last`: such a snapshot only counts.
* `Tracker.unchanged_by_repetition` adds what this means for whole histories and their ends.

A step that is tried again takes a failure each time, as if it were new.  It has started when it takes
one again, and it does not finish before the end, so that no move comes of it.
-/

namespace ScenarioRunner

/-- **A report that was taken changes nothing**, whether it takes the place of what is held as a whole
or only in parts. -/
lemma StepReport.taken_again {old new whole : StepReport} (retryable : Bool)
    (hwhole : whole.refreshed new = whole) {taken : StepReport}
    (htaken : taken = if new.replaces old retryable then whole else old.refreshed new) :
    (if new.replaces taken retryable then whole else taken.refreshed new) = taken := by
  subst htaken
  by_cases h : new.replaces old retryable = true
  · rw [if_pos h]
    split
    · rfl
    · exact hwhole
  · -- the status is as before, so that the report is not replaced now either
    have hagain : ¬ new.replaces (old.refreshed new) retryable = true := h
    rw [if_neg h, if_neg hagain]
    rfl

lemma StepReport.refreshed_self (s : StepReport) : s.refreshed s = s := by
  cases s
  rfl

namespace ExecutionReport

/-- Some snapshots, each with the number of times that it is repeated. -/
def repeated (rs : List (ExecutionReport × Nat)) : List ExecutionReport :=
  rs.flatMap fun (r, n) => List.replicate (n + 1) r

lemma repeated_cons (r : ExecutionReport) (n : Nat) (rs : List (ExecutionReport × Nat)) :
    repeated ((r, n) :: rs) = r :: List.replicate n r ++ repeated rs := rfl

end ExecutionReport

open ExecutionReport (repeated repeated_cons)

/-- The board shows what a snapshot says: the snapshot changes no mark, and the steps that it shows as
executed have started with those around them. -/
structure Board.Reflects (scenario : Node) (r : ExecutionReport) (b : Board) : Prop where
  length_marks : b.marks.length = (Slot.ofScenario scenario).length
  holding_eq : ∀ {i slot}, (Slot.ofScenario scenario)[i]? = some slot →
    Tracker.holding slot r (b.mark i) = b.mark i
  rooted : b.Rooted scenario
  started : ∀ {i slot}, (Slot.ofScenario scenario)[i]? = some slot → r.Shows slot.path →
    ∀ a ∈ slot.ancestors scenario ++ [i], (b.mark a).started = true

namespace Tracker

variable {scenario : Node} {t : Tracker} {r : ExecutionReport} {b : Board} {p : Pass}
  {k a i : Nat} {slot : Slot}

/-! ## The last snapshot -/

lemma holding_of_held {m m' : Mark} (h : m'.held = (holding slot r m).held) :
    holding slot r m' = m' := by
  unfold holding at h ⊢
  cases hnew : r.report.at? slot.path with
  | none => rfl
  | some new =>
      rw [hnew] at h
      dsimp only at h ⊢
      rw [StepReport.taken_again slot.retryable rfl h]

namespace Reachable

variable (h : Reachable scenario t) (hlast : t.last = some r)

include h hlast

/-- What is held on a step comes of the last snapshot. -/
lemma exists_held (hi : (Slot.ofScenario scenario)[i]? = some slot) :
    ∃ m, (t.board.mark i).held = (holding slot r m).held := by
  induction h with
  | start => exact absurd hlast (by simp [ofScenario])
  | observe h r' _ =>
      obtain rfl : r' = r := Option.some.inj hlast
      exact ⟨_, h.held_observe r' hi⟩
  | finish h failure ih =>
      obtain ⟨early, hrecords⟩ := h.records
      obtain ⟨m, hm⟩ := ih hlast
      refine ⟨m, ?_⟩
      rw [mark_finish hrecords h.scenario_eq]
      split <;> exact hm

/-- **The board reflects the snapshot that was observed last.** -/
theorem reflects : t.board.Reflects scenario r := by
  obtain ⟨early, hrecords⟩ := h.records
  have hholding : ∀ {i slot}, (Slot.ofScenario scenario)[i]? = some slot →
      holding slot r (t.board.mark i) = t.board.mark i := by
    intro i slot hi
    obtain ⟨m, hm⟩ := h.exists_held hlast hi
    exact holding_of_held hm
  refine ⟨hrecords.length_marks, hholding, hrecords.rooted, ?_⟩
  intro i slot hi hshows a ha
  obtain ⟨s, hs, hne⟩ := hshows
  have hstatus : (t.board.mark i).held.status = s := by
    rw [← hholding hi, status_holding, hs, Option.getD_some]
  have hstarted : (t.board.mark i).started = true := h.awake i (hstatus ▸ hne)
  rcases List.mem_append.mp ha with ha | ha
  · exact hrecords.started_of_below ((Slot.mem_ancestors_iff_below hi).mp ha) hstarted
  · rwa [List.mem_singleton.mp ha]

/-- The report on the whole scenario has been taken as well. -/
lemma root_eq : (if r.report.replaces t.root false then r.report
    else t.root.refreshed r.report) = t.root := by
  induction h with
  | start => exact absurd hlast (by simp [ofScenario])
  | observe h r' _ =>
      obtain rfl : r' = r := Option.some.inj hlast
      exact StepReport.taken_again false (StepReport.refreshed_self _) rfl
  | finish _ _ ih => exact ih hlast

end Reachable

/-! ## Observing it again -/

/-- A report is taken again only where the step is tried again. -/
lemma retryable_of_takes {m : Mark} (hholding : holding slot r m = m)
    (htakes : takes slot r m = true) : slot.retryable = true := by
  by_contra hretryable
  rw [Bool.not_eq_true] at hretryable
  obtain ⟨s, hs, hne⟩ := (takes_iff hretryable).mp htakes
  have hstatus := status_holding slot r m
  rw [hholding, hs, Option.getD_some] at hstatus
  exact hne hstatus.symm

/-- Nothing has come of the pass: the board is as it was, and a report was replaced only on a step that
is tried again. -/
structure Pass.Idle (scenario : Node) (b : Board) (p : Pass) : Prop where
  board_eq : p.board = b
  retryable : ∀ {i slot}, i ∈ p.replaced → (Slot.ofScenario scenario)[i]? = some slot →
    slot.retryable = true

namespace Pass.Idle

/-- **Entering a step** with a snapshot that the board reflects. -/
theorem enter (h : p.Idle scenario b) (hb : b.Reflects scenario r)
    (hk : (Slot.ofScenario scenario)[k]? = some slot) :
    (Tracker.enter (Slot.ofScenario scenario) slot k r p).Idle scenario b := by
  obtain rfl := h.board_eq
  have hlt : k < p.board.marks.length := by
    rw [hb.length_marks]
    exact (List.getElem?_eq_some_iff.mp hk).1
  have hsame : p.board.change k (holding slot r) = p.board :=
    (Board.change_congr hlt (hb.holding_eq hk)).trans (Board.change_id p.board k)
  rw [enter_eq hlt hb.rooted hk, hsame]
  refine ⟨?_, ?_⟩
  · dsimp only
    split
    · next hbegins =>
      exact Board.startAll_eq_self (hb.started hk (shows_of_begins hbegins))
    · rfl
  · intro i s hi hs
    dsimp only at hi
    split at hi
    · next htakes =>
      rcases List.mem_cons.mp hi with rfl | hi
      · obtain rfl : slot = s := Option.some.inj (hk.symm.trans hs)
        exact retryable_of_takes (hb.holding_eq hk) htakes
      · exact h.retryable hi hs
    · exact h.retryable hi hs

/-- **Leaving a step**: none finishes, as one that is tried again stays open. -/
theorem leave (h : p.Idle scenario b) (ha : (Slot.ofScenario scenario)[a]? = some slot) :
    (Tracker.leave (Slot.ofScenario scenario) slot a r p).Idle scenario b := by
  have hfinishes : ¬ finishes slot a p = true := by
    intro hfinishes
    simp only [finishes, Bool.and_eq_true, Bool.not_eq_true', List.contains_iff_mem] at hfinishes
    obtain ⟨⟨⟨⟨hreplaced, -⟩, -⟩, -⟩, hdeferred⟩ := hfinishes
    have hretryable := h.retryable hreplaced ha
    rw [Slot.retryable_eq_false ha hdeferred] at hretryable
    exact absurd hretryable Bool.false_ne_true
  rwa [Tracker.leave, if_neg hfinishes]

/-- **The walk** with a snapshot that the board reflects. -/
theorem walk (h : p.Idle scenario b) (hb : b.Reflects scenario r) {visits : List Visit} {k' : Nat}
    (hwalk : Visit.Walk (Slot.ofScenario scenario) k visits k') :
    (visits.foldl (visit (Slot.ofScenario scenario) r) p).Idle scenario b := by
  induction hwalk generalizing p with
  | nil => exact h
  | enter hslot _ ih =>
      rw [List.foldl_cons]
      simpa only [visit, hslot] using ih (h.enter hb hslot)
  | leave hslot _ _ ih =>
      rw [List.foldl_cons]
      simpa only [visit, hslot] using ih (h.leave hslot)

end Pass.Idle

/-- A state but for the number of snapshots. -/
def counted (t : Tracker) (n : Nat) : Tracker :=
  { t with snapshots := n }

/-- **The last snapshot only counts** when it is observed again. -/
theorem Reachable.observe_last (h : Reachable scenario t) (hlast : t.last = some r) :
    t.observe r = ([], t.counted (t.snapshots + 1)) := by
  have hidle : Pass.Idle scenario t.board ⟨t.board, []⟩ :=
    ⟨rfl, fun hi => absurd hi List.not_mem_nil⟩
  have hroot := h.root_eq hlast
  have hboard := h.reflects hlast
  obtain rfl := h.scenario_eq
  have hpass : (scan t.slots r t.slots 0 [] ⟨⟨t.marks, []⟩, []⟩).board = ⟨t.marks, []⟩ := by
    rw [slots, scan_ofScenario]
    exact (hidle.walk hboard (Visit.walk_ofScenario t.scenario)).board_eq
  rw [Tracker.observe, hroot, ← hlast]
  simp only [hpass]
  rfl

/-! ## Whole histories -/

lemma observe_counted (t : Tracker) (n : Nat) (r : ExecutionReport) :
    (t.counted n).observe r = ((t.observe r).1, (t.observe r).2.counted (n + 1)) := rfl

/-- The number of snapshots has no part in what is observed. -/
lemma observeAll_counted (t : Tracker) (n : Nat) (rs : List ExecutionReport) :
    (t.counted n).observeAll rs =
      ((t.observeAll rs).1, (t.observeAll rs).2.counted (n + rs.length)) := by
  induction rs generalizing t n with
  | nil => rfl
  | cons r rs ih =>
      rw [observeAll_cons, observeAll_cons, observe_counted, ih, List.length_cons,
        Nat.add_right_comm, Nat.add_assoc]

lemma Reachable.observeAll (h : Reachable scenario t) (rs : List ExecutionReport) :
    Reachable scenario (t.observeAll rs).2 := by
  induction rs generalizing t with
  | nil => exact h
  | cons r rs ih => exact ih (h.observe r)

/-- Repetitions of the last snapshot only count. -/
lemma Reachable.observeAll_replicate (h : Reachable scenario t) (hlast : t.last = some r)
    (n : Nat) :
    t.observeAll (List.replicate n r) = ([], t.counted (t.snapshots + n)) := by
  induction n generalizing t with
  | zero => rfl
  | succ n ih =>
      have hnext := h.observe r
      rw [h.observe_last hlast] at hnext
      rw [List.replicate_succ, observeAll_cons, h.observe_last hlast, ih hnext hlast]
      refine Prod.ext rfl ?_
      show t.counted (t.snapshots + 1 + n) = t.counted (t.snapshots + (n + 1))
      rw [Nat.add_right_comm, Nat.add_assoc]

/-- **A history with repetitions** is like the one without. -/
theorem Reachable.observeAll_repeated (h : Reachable scenario t)
    (rs : List (ExecutionReport × Nat)) :
    t.observeAll (repeated rs) =
      ((t.observeAll (rs.map Prod.fst)).1,
        (t.observeAll (rs.map Prod.fst)).2.counted (t.snapshots + (repeated rs).length)) := by
  induction rs generalizing t with
  | nil => rfl
  | cons head rs ih =>
      obtain ⟨r, n⟩ := head
      have hagain := (h.observe r).observeAll_replicate rfl n
      have hnext := (h.observe r).observeAll (List.replicate n r)
      rw [hagain] at hnext
      rw [repeated_cons, List.cons_append, observeAll_cons, observeAll_append, hagain, ih hnext,
        observeAll_counted, List.map_cons, observeAll_cons]
      refine Prod.ext rfl ?_
      show (((t.observe r).2.observeAll (rs.map Prod.fst)).2.counted
        (t.snapshots + 1 + n + (repeated rs).length)) = _
      congr 1
      simp only [List.length_cons, List.length_append, List.length_replicate]
      omega

/-- **Repetitions are not noticed.**  In every state, the snapshot that was observed last only counts
when it is observed again.  A history in which snapshots are repeated causes the moves of the one
without, and so does what closes the steps that are open behind it. -/
theorem unchanged_by_repetition (h : Reachable scenario t) :
    (∀ r, t.last = some r → t.observe r = ([], t.counted (t.snapshots + 1))) ∧
    ∀ rs : List (ExecutionReport × Nat),
      t.observeAll (repeated rs) =
        ((t.observeAll (rs.map Prod.fst)).1,
          (t.observeAll (rs.map Prod.fst)).2.counted (t.snapshots + (repeated rs).length)) ∧
      ∀ failure, ((t.observeAll (repeated rs)).2.finish failure).1 =
        ((t.observeAll (rs.map Prod.fst)).2.finish failure).1 := by
  refine ⟨fun r hlast => h.observe_last hlast, fun rs => ?_⟩
  have hrepeated := h.observeAll_repeated rs
  refine ⟨hrepeated, fun failure => ?_⟩
  rw [hrepeated]
  rfl

/-- A step that is tried again takes the same failure as a new one, and nothing comes of it. -/
theorem unchanged_by_repetition_persistent :
    ((ofScenario persistent).observe (nestedSnapshot .running .failure)).2.last =
        some (nestedSnapshot .running .failure) ∧
      takes ⟨[0, 0], some 0, 2, true, true⟩ (nestedSnapshot .running .failure)
        (((ofScenario persistent).observe (nestedSnapshot .running .failure)).2.board.mark 1) =
          true ∧
      ((ofScenario persistent).observe (nestedSnapshot .running .failure)).2.observe
          (nestedSnapshot .running .failure) =
        ([], ((ofScenario persistent).observe (nestedSnapshot .running .failure)).2.counted 2) := by
  have h : Reachable persistent
      ((ofScenario persistent).observe (nestedSnapshot .running .failure)).2 := .observe .start _
  exact ⟨rfl, by decide, (unchanged_by_repetition h).1 _ rfl⟩

end Tracker

end ScenarioRunner
