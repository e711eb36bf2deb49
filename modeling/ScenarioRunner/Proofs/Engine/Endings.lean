import ScenarioRunner.Proofs.Engine.JobEvents
import ScenarioRunner.Proofs.Engine.StepEvents

/-!
# How the stream of a scenario ends

What a job tells and writes, by how the execution of its scenario ends: with the last snapshot of a
stream that is read to its end, or with what breaks it.

* `Stream.Lasts` and `Stream.Breaks` are the two ways, and `Stream.lasts_or_breaks`: there is no
  third one.
* `Tracker.closing_of_open`: what closes a step that is open when the execution breaks.
* `Job.Completes` and `Job.BreaksOff` say what the job tells and writes in either case, and
  `Job.concludes` that it does so.

An execution that breaks closes every step that is open, but the tracker remembers which steps are
closed.  A step that was closed before it started is not closed again, and stays open for ever.
-/

namespace ScenarioRunner

namespace Stream

variable {opened : Except Error (ExecutionId × List Item)} {rs : List ExecutionReport}
  {last : ExecutionReport} {e : Error}

/-- There is a stream of snapshots, which come to a last one. -/
def Lasts (opened : Except Error (ExecutionId × List Item)) (rs : List ExecutionReport)
    (last : ExecutionReport) : Prop :=
  ∃ id, opened = .ok (id, (rs ++ [last]).map .ok)

/-- What breaks an execution, and the snapshots before: the scenario is turned down or has no stream,
something else than a snapshot comes, or no snapshot comes at all. -/
inductive Breaks : Except Error (ExecutionId × List Item) → List ExecutionReport → Error → Prop where
  | unopened (e : Error) : Breaks (.error e) [] e
  | broken (id : ExecutionId) (rs : List ExecutionReport) (e : Error) (rest : List Item) :
    Breaks (.ok (id, rs.map .ok ++ .error e :: rest)) rs e
  | empty (id : ExecutionId) : Breaks (.ok (id, [])) [] (.noReport id)

/-- The items of a stream are snapshots, up to the end or to the first one that is none. -/
lemma exists_snapshots (items : List Item) :
    ∃ rs : List ExecutionReport, items = rs.map .ok ∨
      ∃ e rest, items = rs.map .ok ++ .error e :: rest := by
  induction items with
  | nil => exact ⟨[], Or.inl rfl⟩
  | cons item items ih =>
      cases item with
      | error e => exact ⟨[], Or.inr ⟨e, items, rfl⟩⟩
      | ok r =>
          obtain ⟨rs, rfl | ⟨e, rest, rfl⟩⟩ := ih
          · exact ⟨r :: rs, Or.inl rfl⟩
          · exact ⟨r :: rs, Or.inr ⟨e, rest, rfl⟩⟩

/-- **Every execution** comes to a last snapshot or breaks. -/
theorem lasts_or_breaks (opened : Except Error (ExecutionId × List Item)) :
    (∃ rs last, Lasts opened rs last) ∨ ∃ rs e, Breaks opened rs e := by
  cases opened with
  | error e => exact Or.inr ⟨[], e, .unopened e⟩
  | ok reply =>
      obtain ⟨id, items⟩ := reply
      obtain ⟨rs, rfl | ⟨e, rest, rfl⟩⟩ := exists_snapshots items
      · rcases List.eq_nil_or_concat rs with rfl | ⟨rs, last, rfl⟩
        · exact Or.inr ⟨[], _, .empty id⟩
        · rw [List.concat_eq_append]
          exact Or.inl ⟨rs, last, id, rfl⟩
      · exact Or.inr ⟨rs, e, .broken id rs e rest⟩

end Stream

/-! ## The tracker -/

namespace Tracker

variable {scenario : Node} {rs : List ExecutionReport} {i : Nat} {slot : Slot}

/-- A stream is followed snapshot by snapshot. -/
lemma follow_append (id : ExecutionId) (t : Tracker) (rs : List ExecutionReport)
    (items : List Item) :
    t.follow id (rs.map .ok ++ items) =
      ⟨(t.observeAll rs).1 ++ ((t.observeAll rs).2.follow id items).moves,
        ((t.observeAll rs).2.follow id items).tracker,
        ((t.observeAll rs).2.follow id items).outcome⟩ := by
  induction rs generalizing t with
  | nil => rfl
  | cons r rs ih =>
      have hfirst : ∀ items, t.follow id (.ok r :: items) =
          ⟨(t.observe r).1 ++ ((t.observe r).2.follow id items).moves,
            ((t.observe r).2.follow id items).tracker,
            ((t.observe r).2.follow id items).outcome⟩ := fun _ => rfl
      rw [List.map_cons, List.cons_append, hfirst, ih, observeAll_cons, List.append_assoc]

lemma last_observeAll_concat (t : Tracker) (rs : List ExecutionReport) (r : ExecutionReport) :
    (t.observeAll (rs ++ [r])).2.last = some r := by
  rw [observeAll_concat]
  rfl

/-- When a run breaks, the steps that finish fail with what broke it. -/
lemma result_of_finish {reason : String} {result : NodeResult}
    (h : .finished i result ∈ (((ofScenario scenario).observeAll rs).2.finish (some reason)).1) :
    result = .failure reason := by
  have hmem : .finished i result ∈ movesOver scenario rs (some reason) :=
    List.mem_append_right _ h
  obtain ⟨before, after, heq⟩ := List.append_of_mem hmem
  have hlt : i < (Slot.ofScenario scenario).length :=
    (nested_movesOver scenario rs (some reason) before _ after heq).slot_lt
  have hi := List.getElem?_eq_getElem hlt
  have hown : .finished i result ∈
      Move.ofSlot i (((ofScenario scenario).observeAll rs).2.finish (some reason)).1 :=
    Move.mem_ofSlot.mpr ⟨h, rfl⟩
  rw [ofSlot_finish (knows_observeAll scenario rs) (some reason) hi] at hown
  split at hown
  · exact Board.result_of_closing hown
  · exact absurd hown List.not_mem_nil

/-- **A step that is open when a run breaks** fails with what broke it, unless it started after it was
closed. -/
theorem closing_of_open (hi : (Slot.ofScenario scenario)[i]? = some slot)
    (hstarted : .started i ∈ ((ofScenario scenario).observeAll rs).1)
    (hopen : ∀ m ∈ ((ofScenario scenario).observeAll rs).1, m.ends i = false) (reason : String) :
    (¬ scenario.Revived rs slot.path →
      Move.ofSlot i (((ofScenario scenario).observeAll rs).2.finish (some reason)).1 =
        [.finished i (.failure reason)]) ∧
    (scenario.Revived rs slot.path →
      Move.ofSlot i (((ofScenario scenario).observeAll rs).2.finish (some reason)).1 = []) := by
  classical
  have hknows := knows_observeAll scenario rs
  have hown : .started i ∈ Move.ofSlot i ((ofScenario scenario).observeAll rs).1 :=
    Move.mem_ofSlot.mpr ⟨hstarted, rfl⟩
  have hstill : ∀ m ∈ Move.ofSlot i ((ofScenario scenario).observeAll rs).1, m.ends i = false :=
    fun m hm => hopen m (Move.mem_ofSlot.mp hm).1
  have hstage := stage_observeAll rs hi
  rw [ofSlot_finish hknows (some reason) hi]
  simp only [← Bool.not_eq_true, hknows.closed hi]
  generalize Move.ofSlot i ((ofScenario scenario).observeAll rs).1 = moves at hown hstill hstage
  cases hstage with
  | waiting => exact absurd hown List.not_mem_nil
  | passed => exact absurd hown List.not_mem_nil
  | finished result => exact absurd (hstill (.finished i result) (by simp)) (by simp [Move.ends])
  | skipped => exact absurd (List.mem_singleton.mp hown) Move.noConfusion
  | running hunsettled hexecuted =>
      rw [if_pos hunsettled]
      refine ⟨fun _ => ?_, fun hrevived => absurd hrevived.settled hunsettled⟩
      have hmark := (hknows.started hi).mpr hexecuted
      rw [Board.closing, if_pos hmark]
      rfl
  | relapsed hrevived =>
      rw [if_neg fun hunsettled => hunsettled hrevived.settled]
      exact ⟨fun hnot => absurd hrevived hnot, fun _ => rfl⟩

end Tracker

/-! ## Jobs -/

/-- The report that an action writes. -/
def JobAction.report? : JobAction → Option ExecutionReport
  | .write report => some report
  | _ => none

namespace Job

variable {job : Job} {options : RunOptions} {opened : Except Error (ExecutionId × List Item)}
  {rs : List ExecutionReport} {last : ExecutionReport} {e : Error}

/-- The reports that some actions write. -/
def writtenBy (actions : List JobAction) : List ExecutionReport :=
  actions.filterMap JobAction.report?

/-- The moves that some snapshots cause. -/
def movesBy (job : Job) (rs : List ExecutionReport) : List Move :=
  ((Tracker.ofScenario job.node).observeAll rs).1

/-- The moves that close what is open behind some snapshots, at the end of the stream or by what broke
the execution. -/
def closingBy (job : Job) (rs : List ExecutionReport) (failure : Option String) : List Move :=
  (((Tracker.ofScenario job.node).observeAll rs).2.finish failure).1

/-- What is told of steps when they move. -/
def stepEvents (job : Job) (moves : List Move) : List Event :=
  moves.filterMap job.stepEvent?

/-- What a job tells and writes when the last snapshot has come. -/
structure Completes (job : Job) (options : RunOptions) (rs : List ExecutionReport)
    (last : ExecutionReport) (actions : List JobAction) : Prop where
  told : toldBy actions =
    job.stepEvents (job.movesBy (rs ++ [last])) ++ [job.event (.published last)] ++
      job.stepEvents (job.closingBy (rs ++ [last]) none) ++
      [job.event (.finished ⟨last.verdict, last.failureSummary?⟩)]
  written : writtenBy actions = if options.folder.isSome then [last] else []

/-- What a job tells and writes when its execution breaks. -/
structure BreaksOff (job : Job) (rs : List ExecutionReport) (e : Error)
    (actions : List JobAction) : Prop where
  told : toldBy actions =
    job.stepEvents (job.movesBy rs) ++ job.stepEvents (job.closingBy rs (some e.message)) ++
      [job.event (.finished (.failure e.message))]
  written : writtenBy actions = []
  /-- A step that is open finishes with the failure. -/
  closes : ∀ {i : Nat} {slot : Slot}, (Slot.ofScenario job.node)[i]? = some slot →
    .started i ∈ job.movesBy rs → (∀ m ∈ job.movesBy rs, m.ends i = false) →
    ¬ job.node.Revived rs slot.path →
    Move.ofSlot i (job.closingBy rs (some e.message)) = [.finished i (.failure e.message)]
  /-- A step that started after it was closed is left open. -/
  leaves : ∀ {i : Nat} {slot : Slot}, (Slot.ofScenario job.node)[i]? = some slot →
    .started i ∈ job.movesBy rs → (∀ m ∈ job.movesBy rs, m.ends i = false) →
    job.node.Revived rs slot.path →
    Move.ofSlot i (job.closingBy rs (some e.message)) = []
  /-- No step finishes in another way. -/
  fails : ∀ i result, .finished i result ∈ job.closingBy rs (some e.message) →
    result = .failure e.message

/-- **How a job concludes**, by how the execution of its scenario ends. -/
structure Concludes (job : Job) (options : RunOptions)
    (opened : Except Error (ExecutionId × List Item)) (actions : List JobAction) : Prop where
  /-- The scenario succeeds exactly if the stream comes to a last snapshot that is a success. -/
  succeeds_iff : (∃ result, job.event (.finished result) ∈ toldBy actions ∧
      result.verdict = .success) ↔
    ∃ rs last, Stream.Lasts opened rs last ∧ last.verdict = .success
  /-- The last snapshot is published, and nothing else. -/
  publishes_iff : ∀ report, job.event (.published report) ∈ toldBy actions ↔
    ∃ rs, Stream.Lasts opened rs report
  completes : ∀ {rs last}, Stream.Lasts opened rs last → job.Completes options rs last actions
  breaksOff : ∀ {rs e}, Stream.Breaks opened rs e → job.BreaksOff rs e actions
  /-- Every move of a step is told. -/
  tells : ∀ rs failure, ∀ m ∈ job.movesBy rs ++ job.closingBy rs failure,
    (job.stepEvent? m).isSome = true

/-! ## What has been followed -/

lemma followed_of_lasts (job : Job) (h : Stream.Lasts opened rs last) :
    job.followed opened =
      ⟨job.movesBy (rs ++ [last]), ((Tracker.ofScenario job.node).observeAll (rs ++ [last])).2,
        .ok last⟩ := by
  obtain ⟨id, rfl⟩ := h
  show (Tracker.ofScenario job.node).follow id _ = _
  have hfollow := (Tracker.ofScenario job.node).follow_append id (rs ++ [last]) []
  rw [List.append_nil] at hfollow
  rw [hfollow, movesBy]
  simp only [Tracker.follow, Tracker.last_observeAll_concat, List.append_nil]

lemma followed_of_breaks (job : Job) (h : Stream.Breaks opened rs e) :
    job.followed opened =
      ⟨job.movesBy rs, ((Tracker.ofScenario job.node).observeAll rs).2, .error e⟩ := by
  cases h with
  | unopened => rfl
  | broken id rs e rest =>
      show (Tracker.ofScenario job.node).follow id _ = _
      rw [Tracker.follow_append, movesBy]
      simp only [Tracker.follow, List.append_nil]
  | empty => rfl

/-! ## What is told and written -/

lemma writtenBy_emitAll (job : Job) (moves : List Move) : writtenBy (job.emitAll moves) = [] := by
  rw [writtenBy, emitAll, List.filterMap_map, List.filterMap_eq_nil_iff]
  exact fun _ _ => rfl

/-- A job writes its final report, if reports are written. -/
lemma writtenBy_actions (job : Job) (options : RunOptions)
    (opened : Except Error (ExecutionId × List Item)) :
    writtenBy (job.actions options opened) =
      match (job.followed opened).outcome with
      | .error _ => []
      | .ok report => if options.folder.isSome then [report] else [] := by
  have happend : ∀ actions more : List JobAction,
      writtenBy (actions ++ more) = writtenBy actions ++ writtenBy more :=
    fun _ _ => List.filterMap_append ..
  have hpublish : writtenBy (job.publish options (job.followed opened)) =
      match (job.followed opened).outcome with
      | .error _ => []
      | .ok report => if options.folder.isSome then [report] else [] := by
    unfold publish
    cases (job.followed opened).outcome with
    | error e => rfl
    | ok report => cases options.folder <;> rfl
  rw [actions_eq, work, happend, happend, happend, writtenBy_emitAll, writtenBy_emitAll, hpublish,
    List.nil_append, List.append_nil]
  exact List.append_nil _

lemma completes_actions (job : Job) (options : RunOptions) (h : Stream.Lasts opened rs last) :
    job.Completes options rs last (job.actions options opened) where
  told := by
    rw [toldBy_actions, innerEvents, toldBy_publish, followed_of_lasts job h]
    rfl
  written := by
    rw [writtenBy_actions, followed_of_lasts job h]

lemma breaksOff_actions (job : Job) (options : RunOptions) (h : Stream.Breaks opened rs e) :
    job.BreaksOff rs e (job.actions options opened) where
  told := by
    rw [toldBy_actions, innerEvents, toldBy_publish, followed_of_breaks job h, List.append_nil]
    rfl
  written := by rw [writtenBy_actions, followed_of_breaks job h]
  closes hi hstarted hopen := (Tracker.closing_of_open hi hstarted hopen e.message).1
  leaves hi hstarted hopen := (Tracker.closing_of_open hi hstarted hopen e.message).2
  fails _ _ := Tracker.result_of_finish

lemma isStep_of_mem_stepEvents {moves : List Move} {event : Event}
    (h : event ∈ job.stepEvents moves) :
    ∃ slot, event.subject = .stepAt job.group job.place slot := by
  obtain ⟨m, -, hm⟩ := List.mem_filterMap.mp h
  rw [stepEvent?, Option.map_eq_some_iff] at hm
  obtain ⟨node, -, rfl⟩ := hm
  exact ⟨m.slot, rfl⟩

/-- What is told of the scenario itself is not told of its steps. -/
lemma event_not_mem_stepEvents (job : Job) (change : Change) (moves : List Move) :
    job.event change ∉ job.stepEvents moves := by
  intro h
  obtain ⟨slot, hslot⟩ := isStep_of_mem_stepEvents h
  exact Subject.noConfusion hslot

lemma event_inj {change change' : Change} :
    job.event change = job.event change' ↔ change = change' :=
  ⟨fun heq => (Event.mk.inj heq).2.2, congrArg job.event⟩

lemma Completes.mem_told_iff {actions : List JobAction} (h : job.Completes options rs last actions)
    {change : Change} :
    job.event change ∈ toldBy actions ↔
      change = .published last ∨ change = .finished ⟨last.verdict, last.failureSummary?⟩ := by
  rw [h.told]
  simp only [List.mem_append, List.mem_singleton, event_not_mem_stepEvents, event_inj, false_or,
    or_false]

lemma BreaksOff.mem_told_iff {actions : List JobAction} (h : job.BreaksOff rs e actions)
    {change : Change} :
    job.event change ∈ toldBy actions ↔ change = .finished (.failure e.message) := by
  rw [h.told]
  simp only [List.mem_append, List.mem_singleton, event_not_mem_stepEvents, event_inj, false_or]

/-- A stream that comes to a last snapshot does not break. -/
lemma not_breaks_of_lasts (job : Job) (h : Stream.Lasts opened rs last) {rs' : List ExecutionReport} :
    ¬ Stream.Breaks opened rs' e := by
  intro hbreaks
  have heq := (followed_of_lasts job h).symm.trans (followed_of_breaks job hbreaks)
  exact absurd (congrArg Followed.outcome heq) (by simp)

/-- The last snapshot of a stream is one. -/
lemma last_unique (job : Job) {rs' : List ExecutionReport} {last' : ExecutionReport}
    (h : Stream.Lasts opened rs last) (h' : Stream.Lasts opened rs' last') : last = last' := by
  have heq := (followed_of_lasts job h).symm.trans (followed_of_lasts job h')
  exact Except.ok.inj (congrArg Followed.outcome heq)

/-- Every move of a step is told. -/
lemma isSome_stepEvent? {failure : Option String} {m : Move}
    (hm : m ∈ job.movesBy rs ++ job.closingBy rs failure) : (job.stepEvent? m).isSome = true := by
  obtain ⟨before, after, heq⟩ := List.append_of_mem hm
  have hlt := (Tracker.nested_movesOver job.node rs failure before m after heq).slot_lt
  rw [Slot.length_ofScenario, ← Node.length_descendantsOf] at hlt
  rw [stepEvent?_eq, Option.isSome_map, List.getElem?_eq_getElem hlt]
  rfl

/-- **Every job concludes** by how the execution of its scenario ends. -/
theorem concludes (job : Job) (options : RunOptions)
    (opened : Except Error (ExecutionId × List Item)) :
    job.Concludes options opened (job.actions options opened) where
  succeeds_iff := by
    rcases Stream.lasts_or_breaks opened with ⟨rs, last, hlasts⟩ | ⟨rs, e, hbreaks⟩
    · have hcompletes := completes_actions job options hlasts
      constructor
      · rintro ⟨result, hresult, hsuccess⟩
        rcases hcompletes.mem_told_iff.mp hresult with heq | heq
        · exact Change.noConfusion heq
        · obtain rfl := Change.finished.inj heq
          exact ⟨rs, last, hlasts, hsuccess⟩
      · rintro ⟨rs', last', hlasts', hsuccess⟩
        obtain rfl := last_unique job hlasts hlasts'
        exact ⟨_, hcompletes.mem_told_iff.mpr (Or.inr rfl), hsuccess⟩
    · have hbreaksOff := breaksOff_actions job options hbreaks
      constructor
      · rintro ⟨result, hresult, hsuccess⟩
        obtain rfl := Change.finished.inj (hbreaksOff.mem_told_iff.mp hresult)
        exact Verdict.noConfusion hsuccess
      · rintro ⟨rs', last, hlasts, -⟩
        exact absurd hbreaks (not_breaks_of_lasts job hlasts)
  publishes_iff report := by
    rcases Stream.lasts_or_breaks opened with ⟨rs, last, hlasts⟩ | ⟨rs, e, hbreaks⟩
    · have hcompletes := completes_actions job options hlasts
      rw [hcompletes.mem_told_iff, or_iff_left Change.noConfusion]
      constructor
      · intro heq
        exact ⟨rs, Change.published.inj heq ▸ hlasts⟩
      · rintro ⟨rs', hlasts'⟩
        rw [last_unique job hlasts hlasts']
    · have hbreaksOff := breaksOff_actions job options hbreaks
      rw [hbreaksOff.mem_told_iff]
      refine iff_of_false Change.noConfusion ?_
      rintro ⟨rs', hlasts⟩
      exact not_breaks_of_lasts job hlasts hbreaks
  completes := completes_actions job options
  breaksOff := breaksOff_actions job options
  tells _ _ _ := isSome_stepEvent?

end Job

end ScenarioRunner
