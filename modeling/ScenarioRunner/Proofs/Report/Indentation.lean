import Mathlib.Tactic.Common
import ScenarioRunner.Proofs.Model.Failures
import ScenarioRunner.Proofs.Report.Styles
import ScenarioRunner.Report.Console

/-!
# What a rendered report shows

A report is rendered as lines, and each line of a step is indented by its depth.

* `StepReport.nestedOf` lists the nodes of some trees with their depths, and `StepReport.linesOf_eq`
  gives the lines of the trees in terms of it.
* `ExecutionReport.map_unstyled_lines`: the branches for a plain report and those for a report in
  colours write the same lines, but for styles.
* `ExecutionReport.texts` are the texts of a report that are shown.  `ExecutionReport.not_mem_lines`: a
  control character in a line stems from one of them.
* `Indentation.depths` reads the depths of steps off the indentation of lines, and
  `Indentation.exists_depths_nestedOf` says that it finds them.
* `ExecutionReport.legible`: colours change nothing in what is said, and the plain lines show the tree.

The details of a step stand two levels below it.  No step does that after this one, as each step is at
most one level deeper than the step before.
-/

namespace ScenarioRunner

/-! ## Nodes and their lines -/

namespace StepReport

mutual

/-- The nodes of a tree with their depths, each before those below it. -/
def nested (depth : Nat) : StepReport → List (Nat × StepReport)
  | ⟨name, status, duration, startDate, errors, information, evaluatedInputs, stepOutputs, kind,
      targetName, strategy, steps⟩ =>
    (depth, ⟨name, status, duration, startDate, errors, information, evaluatedInputs, stepOutputs,
      kind, targetName, strategy, steps⟩) :: nestedOf (depth + 1) steps

/-- The nodes of some trees with their depths, one tree after the other. -/
def nestedOf (depth : Nat) : List StepReport → List (Nat × StepReport)
  | [] => []
  | step :: steps => step.nested depth ++ nestedOf depth steps

end

/-- The texts of a step that are shown. -/
def texts (r : StepReport) : List String :=
  r.name :: (r.targetName.toList ++ r.information ++ r.errors)

/-- The lines of a step at a depth: one for itself, and one for each of its details. -/
def shown (depth : Nat) (r : StepReport) : List String :=
  (Text.repeated depth "  " ++ r.status.glyph ++ " " ++ r.title ++ " " ++
      toString r.duration.toNat ++ " ms") ::
    ((r.information.map fun text => Text.repeated (depth + 2) "  " ++ "info: " ++ text) ++
      r.errors.map fun text => Text.repeated (depth + 2) "  " ++ "error: " ++ text)

variable {depth : Nat}

lemma nested_eq (depth : Nat) (r : StepReport) :
    r.nested depth = (depth, r) :: nestedOf (depth + 1) r.steps := by
  cases r
  rfl

/-- The nodes are those of the trees, in the same order. -/
lemma map_snd_nestedOf (depth : Nat) (reports : List StepReport) :
    (nestedOf depth reports).map Prod.snd = nodesOf reports := by
  induction reports using forest_induction generalizing depth with
  | nil => rfl
  | cons r reports below beside =>
      rw [nestedOf, nested_eq, nodesOf, nodes_eq, List.map_append, List.map_cons, below, beside]

lemma lines_eq (coloured : Bool) (depth : Nat) (r : StepReport) :
    r.lines coloured depth = r.headline coloured depth :: r.details coloured depth ++
      linesOf coloured (depth + 1) r.steps := by
  cases r
  rfl

/-- **The lines of some trees** are those of their nodes. -/
theorem linesOf_eq (coloured : Bool) (depth : Nat) (reports : List StepReport) :
    linesOf coloured depth reports =
      (nestedOf depth reports).flatMap fun p =>
        p.2.headline coloured p.1 :: p.2.details coloured p.1 := by
  induction reports using forest_induction generalizing depth with
  | nil => rfl
  | cons r reports below beside =>
      rw [linesOf, lines_eq, below, beside, nestedOf, nested_eq, List.flatMap_append,
        List.flatMap_cons]

/-- The plain lines of a step. -/
lemma map_text_lines (depth : Nat) (r : StepReport) :
    (r.headline false depth :: r.details false depth).map (Line.text true) = r.shown depth := by
  simp [headline, details, informationLine, errorLine, shown, Line.text, Function.comp_def,
    Span.render, Span.indent, Span.plain, Status.paint, String.join_cons, String.append_assoc]

end StepReport

namespace ExecutionReport

/-- The texts of a report that are shown: the names of the scenario and of its environment, and the
texts of the steps. -/
def texts (r : ExecutionReport) : List String :=
  r.scenarioName :: r.environment :: (StepReport.nodesOf r.report.steps).flatMap StepReport.texts

/-- The first line of a report. -/
def shown (r : ExecutionReport) : String :=
  r.status.glyph ++ " " ++ r.scenarioName ++ " [" ++ r.environment ++ "] " ++ r.status.name ++
    " in " ++ toString r.duration.toNat ++ " ms"

/-- The first of the plain lines. -/
lemma text_headline (r : ExecutionReport) : (r.headline false).text true = r.shown := by
  simp [headline, shown, Line.text, Span.render, Span.plain, Status.paint, String.join_cons,
    String.append_assoc]

/-- The plain lines of a report. -/
lemma map_text_lines (r : ExecutionReport) :
    (r.lines false).map (Line.text true) =
      r.shown :: (StepReport.nestedOf 1 r.report.steps).flatMap fun p => p.2.shown p.1 := by
  rw [lines, List.map_cons, text_headline, StepReport.linesOf_eq, List.map_flatMap]
  simp only [StepReport.map_text_lines]

end ExecutionReport

/-! ## Colours -/

lemma Status.text_paint (coloured : Bool) (s : Status) (text : String) :
    (s.paint coloured text).text = text := by
  cases coloured <;> cases s <;> rfl

/-- The plain lines of a step are those in colours, without their styles. -/
lemma StepReport.map_unstyled_lines (depth : Nat) (r : StepReport) :
    (r.headline true depth :: r.details true depth).map Line.unstyled =
      r.headline false depth :: r.details false depth := by
  have hpaint (s : Status) (text : String) :
      Span.plain (s.paint true text).text = s.paint false text :=
    congrArg Span.plain (s.text_paint true text)
  have hinformation (text : String) :
      (informationLine true depth text).unstyled = informationLine false depth text := rfl
  have herror (text : String) : (errorLine true depth text).unstyled = errorLine false depth text :=
    congrArg (fun s => [Span.indent (depth + 2), s]) (hpaint .failure ("error: " ++ text))
  have hself : (r.headline true depth).unstyled = r.headline false depth := by
    simp only [headline, Line.unstyled, List.map_cons, hpaint, List.map_nil]
    rfl
  simp only [details, List.map_cons, List.map_append, List.map_map, Function.comp_def, hself,
    hinformation, herror]

/-- **The plain lines of a report** are those in colours, without their styles. -/
theorem ExecutionReport.map_unstyled_lines (r : ExecutionReport) :
    (r.lines true).map Line.unstyled = r.lines false := by
  have hself : (r.headline true).unstyled = r.headline false := by
    simp only [headline, Line.unstyled, List.map_cons, Status.paint, List.map_nil]
    cases r.status <;> rfl
  rw [lines, lines, List.map_cons, hself, StepReport.linesOf_eq, StepReport.linesOf_eq,
    List.map_flatMap]
  simp only [StepReport.map_unstyled_lines]

/-- The plain text is that of the lines in colours where no style shows. -/
lemma ExecutionReport.render_false (r : ExecutionReport) :
    r.render false = Line.textOfAll false (r.lines true) := by
  rw [render, ← map_unstyled_lines, Line.textOfAll_unstyled]

/-! ## Control characters -/

namespace Text

variable {c : Char}

/-- A control character stands in no text of other characters. -/
lemma not_mem_of_all {s : String} (hc : c.toNat < 32) (h : s.toList.all fun d => 32 ≤ d.toNat) :
    c ∉ s.toList := by
  intro hmem
  have hle := of_decide_eq_true (List.all_eq_true.mp h c hmem)
  omega

lemma not_mem_append_iff {s t : String} : c ∉ (s ++ t).toList ↔ c ∉ s.toList ∧ c ∉ t.toList := by
  rw [String.toList_append, List.mem_append, not_or]

lemma not_mem_number (hc : c.toNat < 32) (n : Nat) : c ∉ (toString n).toList := by
  rw [Nat.toString_eq_repr, Nat.toList_repr]
  intro hmem
  have hdigit := Nat.isDigit_of_mem_toDigits (by decide) (by decide) hmem
  rw [Char.isDigit, Bool.and_eq_true, decide_eq_true_eq] at hdigit
  have hle : 48 ≤ c.toNat := hdigit.1
  omega

lemma toList_repeated (count : Nat) :
    (repeated count "  ").toList = List.replicate (2 * count) ' ' := by
  rw [repeated, String.toList_join]
  induction count with
  | zero => rfl
  | succ count ih =>
      rw [List.replicate_succ, List.flatMap_cons, ih, Nat.mul_succ, Nat.add_comm, List.replicate_add]
      rfl

lemma not_mem_repeated (hc : c.toNat < 32) (count : Nat) : c ∉ (repeated count "  ").toList := by
  rw [toList_repeated]
  intro hmem
  rw [List.eq_of_mem_replicate hmem] at hc
  exact absurd hc (by decide)

end Text

lemma Status.not_mem_glyph {c : Char} (hc : c.toNat < 32) (s : Status) : c ∉ s.glyph.toList :=
  Text.not_mem_of_all hc (by cases s <;> decide)

lemma Status.not_mem_name {c : Char} (hc : c.toNat < 32) (s : Status) : c ∉ s.name.toList :=
  Text.not_mem_of_all hc (by cases s <;> decide)

open Text (not_mem_of_all not_mem_append_iff not_mem_number not_mem_repeated)

/-- A control character in the lines of a step stems from its texts. -/
lemma StepReport.not_mem_lines {c : Char} (hc : c.toNat < 32) {r : StepReport}
    (h : ∀ text ∈ r.texts, c ∉ text.toList) (depth : Nat) :
    ∀ line ∈ r.headline true depth :: r.details true depth, ∀ s ∈ line, c ∉ s.text.toList := by
  rw [texts, List.forall_mem_cons, List.forall_mem_append, List.forall_mem_append] at h
  obtain ⟨hname, ⟨htarget, hinformation⟩, herrors⟩ := h
  have hfixed {s : String} (hs : s.toList.all fun d => 32 ≤ d.toNat) : c ∉ s.toList :=
    not_mem_of_all hc hs
  have htitle : c ∉ r.title.toList := by
    rw [title]
    cases hcase : r.targetName with
    | none => exact hname
    | some target =>
        simp only [not_mem_append_iff]
        exact ⟨⟨⟨hname, hfixed (by decide)⟩, htarget target (by simp [hcase])⟩, hfixed (by decide)⟩
  have hself : c ∉ (" " ++ r.title ++ " " ++ toString r.duration.toNat ++ " ms").toList := by
    simp only [not_mem_append_iff]
    exact ⟨⟨⟨⟨hfixed (by decide), htitle⟩, hfixed (by decide)⟩, not_mem_number hc _⟩,
      hfixed (by decide)⟩
  have hdetail {label text : String} (hlabel : c ∉ label.toList) (htext : c ∉ text.toList)
      (style : Style) :
      ∀ s ∈ [Span.indent (depth + 2), .styled style (label ++ text)], c ∉ s.text.toList :=
    List.forall_mem_cons.mpr ⟨not_mem_repeated hc _,
      List.forall_mem_singleton.mpr (not_mem_append_iff.mpr ⟨hlabel, htext⟩)⟩
  have hglyph : c ∉ (r.status.paint true r.status.glyph).text.toList := by
    rw [Status.text_paint]
    exact r.status.not_mem_glyph hc
  refine List.forall_mem_cons.mpr ⟨?_, List.forall_mem_append.mpr ⟨?_, ?_⟩⟩
  · exact List.forall_mem_cons.mpr ⟨not_mem_repeated hc _, List.forall_mem_cons.mpr
      ⟨hglyph, List.forall_mem_singleton.mpr hself⟩⟩
  · exact List.forall_mem_map.mpr fun text htext =>
      hdetail (hfixed (by decide)) (hinformation text htext) .faint
  · exact List.forall_mem_map.mpr fun text htext =>
      hdetail (hfixed (by decide)) (herrors text htext) (.ofColour .red)

/-- **A control character in the lines of a report** stems from the texts that are shown. -/
theorem ExecutionReport.not_mem_lines {c : Char} (hc : c.toNat < 32) {r : ExecutionReport}
    (h : ∀ text ∈ r.texts, c ∉ text.toList) :
    ∀ line ∈ r.lines true, ∀ s ∈ line, c ∉ s.text.toList := by
  rw [texts, List.forall_mem_cons, List.forall_mem_cons] at h
  obtain ⟨hname, henvironment, hsteps⟩ := h
  have hfixed {s : String} (hs : s.toList.all fun d => 32 ≤ d.toNat) : c ∉ s.toList :=
    not_mem_of_all hc hs
  have hplace : c ∉ (" [" ++ r.environment ++ "] ").toList := by
    simp only [not_mem_append_iff]
    exact ⟨⟨hfixed (by decide), henvironment⟩, hfixed (by decide)⟩
  have hend : c ∉ (" in " ++ toString r.duration.toNat ++ " ms").toList := by
    simp only [not_mem_append_iff]
    exact ⟨⟨hfixed (by decide), not_mem_number hc _⟩, hfixed (by decide)⟩
  rw [lines, StepReport.linesOf_eq]
  refine List.forall_mem_cons.mpr ⟨?_, fun line hline => ?_⟩
  · simp only [headline, List.forall_mem_cons, Status.text_paint]
    exact ⟨r.status.not_mem_glyph hc, hfixed (by decide), hname, hplace, r.status.not_mem_name hc,
      hend, List.forall_mem_nil _⟩
  · obtain ⟨p, hp, hline⟩ := List.mem_flatMap.mp hline
    have hnode : p.2 ∈ StepReport.nodesOf r.report.steps := by
      rw [← StepReport.map_snd_nestedOf 1]
      exact List.mem_map_of_mem hp
    exact StepReport.not_mem_lines hc
      (fun text htext => hsteps text (List.mem_flatMap.mpr ⟨p.2, hnode, htext⟩)) p.1 line hline

namespace Line

/-- What stands in no piece of a line does not stand in its text. -/
lemma not_mem_text {c : Char} {line : Line} (h : ∀ s ∈ line, c ∉ s.text.toList) :
    c ∉ (text false line).toList := by
  have hplain (s : Span) : s.render false = s.text := by
    unfold Span.render
    cases s.style <;> rfl
  induction line with
  | nil => exact List.not_mem_nil
  | cons s line ih =>
      rw [List.forall_mem_cons] at h
      rw [text_cons, Text.not_mem_append_iff, hplain]
      exact ⟨h.1, ih h.2⟩

/-- **Lines are found again in their text**, if there is no newline in any of them. -/
theorem segments_textOfAll {lines : List Line}
    (h : ∀ line ∈ lines, '
' ∉ (text false line).toList) :
    Text.segments '
' (textOfAll false lines) = lines.map (text false) ++ [""] := by
  induction lines with
  | nil => rfl
  | cons line lines ih =>
      rw [List.forall_mem_cons] at h
      have htext : (textOfAll false (line :: lines)).toList =
          (text false line).toList ++ '
' :: (textOfAll false lines).toList := by
        rw [textOfAll_cons, String.toList_append, String.toList_append, List.append_assoc]
        rfl
      rw [Text.segments_append htext, Text.segments_of_not_mem h.1, ih h.2]
      rfl

end Line

/-! ## Depths -/

namespace Indentation

/-- The level of a line: it is indented by two blanks for each. -/
def level (line : String) : Nat :=
  (line.toList.takeWhile (· == ' ')).length / 2

/-- The levels of steps among those of lines.  A line that is two levels below the step before it, or
more, is a detail of this step. -/
def depths (last : Nat) : List Nat → List Nat
  | [] => []
  | level :: levels =>
    if level ≤ last + 1 then level :: depths level levels else depths last levels

/-- The depths of the steps in a text, read off the indentation of the lines below the first. -/
def depthsOf (text : String) : List Nat :=
  depths 0 ((Text.segments '
' text).tail.dropLast.map level)

lemma level_repeated {s : String} (h : s.toList.head? ≠ some ' ') (depth : Nat) :
    level (Text.repeated depth "  " ++ s) = depth := by
  have hstop : s.toList.takeWhile (· == ' ') = [] := by
    cases hs : s.toList with
    | nil => rfl
    | cons c rest =>
        rw [hs, List.head?_cons, ne_eq, Option.some.injEq] at h
        rw [List.takeWhile_cons, if_neg (by simpa using h)]
  rw [level, String.toList_append, Text.toList_repeated, List.takeWhile_append_of_pos, hstop,
    List.append_nil, List.length_replicate, Nat.mul_div_cancel_left _ Nat.two_pos]
  intro c hc
  rw [List.eq_of_mem_replicate hc]
  rfl

lemma head?_glyph (s : Status) (rest : String) : (s.glyph ++ rest).toList.head? ≠ some ' ' := by
  rw [String.toList_append]
  cases s <;> simp [Status.glyph]

/-- The levels of the lines of a step: its own, and one for each of its details. -/
lemma map_level_shown (depth : Nat) (r : StepReport) :
    (r.shown depth).map level =
      depth :: List.replicate (r.information.length + r.errors.length) (depth + 2) := by
  have hself (rest : String) : level (Text.repeated depth "  " ++ (r.status.glyph ++ rest)) = depth :=
    level_repeated (head?_glyph r.status rest) depth
  have hinfo (text : String) :
      level (Text.repeated (depth + 2) "  " ++ ("info: " ++ text)) = depth + 2 :=
    level_repeated (by simp) (depth + 2)
  have herror (text : String) :
      level (Text.repeated (depth + 2) "  " ++ ("error: " ++ text)) = depth + 2 :=
    level_repeated (by simp) (depth + 2)
  simp only [StepReport.shown, List.map_cons, List.map_append, List.map_map, Function.comp_def,
    String.append_assoc, hself, hinfo, herror, List.map_const', List.replicate_add]

/-- Details are passed over. -/
lemma depths_details (last count : Nat) (levels : List Nat) :
    depths last (List.replicate count (last + 2) ++ levels) = depths last levels := by
  induction count with
  | zero => rfl
  | succ count ih =>
      rw [List.replicate_succ, List.cons_append, depths, if_neg (by omega), ih]

/-- **The depths of steps are read off the levels of their lines**, whatever follows. -/
theorem exists_depths_nestedOf (reports : List StepReport) {depth last : Nat}
    (h : depth ≤ last + 1) :
    ∃ last', depth ≤ last' + 1 ∧ ∀ levels,
      depths last
          (((StepReport.nestedOf depth reports).flatMap fun p => (p.2.shown p.1).map level) ++
            levels) =
        (StepReport.nestedOf depth reports).map Prod.fst ++ depths last' levels := by
  induction reports using StepReport.forest_induction generalizing depth last with
  | nil => exact ⟨last, h, fun levels => rfl⟩
  | cons r reports below beside =>
      obtain ⟨deepest, hdeepest, hbelow⟩ := below (Nat.le_refl (depth + 1))
      have hdeep : depth ≤ deepest + 1 := by omega
      obtain ⟨last', hlast', hbeside⟩ := beside hdeep
      refine ⟨last', hlast', fun levels => ?_⟩
      rw [StepReport.nestedOf, StepReport.nested_eq, List.flatMap_append, List.flatMap_cons,
        map_level_shown, List.append_assoc, List.append_assoc, List.cons_append, depths, if_pos h,
        depths_details, hbelow, hbeside, List.map_append, List.map_cons, List.cons_append,
        List.cons_append, List.append_assoc]

end Indentation

/-! ## Reports -/

namespace ExecutionReport

/-- **A rendered report can be read in two ways.**  If no text in it holds an escape, the report in
colours is the plain one, when its style sequences are taken away.  If no text holds a newline either,
the plain report has one line for the scenario and then, for each step in the order of the tree, one line
and one more for each of its details; and the depths of the steps can be read off the indentation. -/
theorem legible (r : ExecutionReport) (hescape : ∀ text ∈ r.texts, '\x1b' ∉ text.toList) :
    Style.strip (r.render true) = r.render false ∧
      ((∀ text ∈ r.texts, '\n' ∉ text.toList) →
        Text.segments '\n' (r.render false) =
            r.shown :: ((StepReport.nestedOf 1 r.report.steps).flatMap fun p => p.2.shown p.1) ++
              [""] ∧
          Indentation.depthsOf (r.render false) =
            (StepReport.nestedOf 1 r.report.steps).map Prod.fst) := by
  refine ⟨?_, fun hnewline => ?_⟩
  · rw [render_false]
    exact Line.strip_textOfAll (not_mem_lines (by decide) hescape)
  have hlines : Text.segments '\n' (r.render false) =
      r.shown :: ((StepReport.nestedOf 1 r.report.steps).flatMap fun p => p.2.shown p.1) ++ [""] := by
    have htext : (r.lines true).map (Line.text false) = (r.lines false).map (Line.text true) := by
      rw [← map_unstyled_lines, List.map_map]
      exact List.map_congr_left fun line _ => (line.text_unstyled true).symm
    rw [render_false, Line.segments_textOfAll fun line hline =>
      Line.not_mem_text (not_mem_lines (by decide) hnewline line hline), htext, map_text_lines]
  refine ⟨hlines, ?_⟩
  obtain ⟨last, -, hdepths⟩ :=
    Indentation.exists_depths_nestedOf r.report.steps (Nat.le_refl (0 + 1))
  rw [Indentation.depthsOf, hlines, List.cons_append, List.tail_cons, List.dropLast_concat,
    List.map_flatMap, ← List.append_nil (List.flatMap _ _), hdepths, Indentation.depths,
    List.append_nil]

/-- A report with brackets in its name, on steps with details and with steps below them. -/
def withDetails : ExecutionReport :=
  .around 1 "[31m s" ""
    { StepReport.blank with
      status := .stopped
      steps :=
        [{ StepReport.blank with
            name := "  outer"
            status := .failure
            targetName := some "web"
            information := ["a", " b"]
            errors := ["boom"]
            steps := [{ StepReport.blank with name := "inner", information := [""] }] },
          { StepReport.blank with name := "next", status := .running }] }

/-- Its lines and the depths of its steps, with colours or without them. -/
theorem legible_withDetails :
    (∀ text ∈ withDetails.texts, '\x1b' ∉ text.toList) ∧
      (∀ text ∈ withDetails.texts, '\n' ∉ text.toList) ∧
      Style.strip (withDetails.render true) = withDetails.render false ∧
      Text.segments '\n' (withDetails.render false) =
        ["■ [31m s [] STOPPED in 0 ms", "  ✗   outer (web) 0 ms", "      info: a", "      info:  b",
          "      error: boom", "    ○ inner 0 ms", "        info: ", "  ▶ next 0 ms", ""] ∧
      Indentation.depthsOf (withDetails.render false) = [1, 2, 1] := by
  have hescape : ∀ text ∈ withDetails.texts, '\x1b' ∉ text.toList := by decide
  have hnewline : ∀ text ∈ withDetails.texts, '\n' ∉ text.toList := by decide
  obtain ⟨hstrip, hplain⟩ := legible withDetails hescape
  obtain ⟨hlines, hdepths⟩ := hplain hnewline
  exact ⟨hescape, hnewline, hstrip, hlines.trans (by decide), hdepths⟩

end ExecutionReport

end ScenarioRunner
