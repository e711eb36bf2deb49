import Mathlib.Tactic.Common
import ScenarioRunner.Proofs.Text.Cuts
import ScenarioRunner.Report.Style

/-!
# Texts without their styles

What is left of a styled text when its style sequences are taken away.

* `Style.stripped` takes the style sequences out of any text, and `Style.strip` does so for strings.
* `Style.toList_wrap`: a text without escapes stands as it is between the two sequences of a style.
* `Line.strip_textOfAll`: lines in colours and lines without them say the same.
* `Line.textOfAll_unstyled`: pieces without a style are written in one way.

A style sequence is an escape, a bracket, some numbers and the letter `m`.  Whatever else begins with
an escape is left where it is.
-/

namespace ScenarioRunner

namespace Text

/-- Nothing is replaced in a text that does not hold the first character of what is replaced. -/
lemma replaced_eq_self {c : Char} {part mark s : List Char} (h : c ∉ s) :
    replaced (c :: part) mark s = s := by
  have hgo (fuel : Nat) : replaced.go (c :: part) mark fuel s = s := by
    induction fuel generalizing s with
    | zero => rfl
    | succ fuel ih =>
        cases s with
        | nil => rfl
        | cons d s =>
            rw [List.mem_cons, not_or] at h
            simp only [replaced.go, dropStart?, if_neg h.1, ih h.2]
  exact hgo s.length

end Text

namespace Style

/-! ## Style sequences -/

/-- What follows the numbers of a style sequence and the letter that ends them. -/
def behindNumbers? : List Char → Option (List Char)
  | [] => none
  | c :: rest =>
    if c = 'm' then some rest
    else if c.isDigit || c == ';' then behindNumbers? rest
    else none

/-- What follows the style sequence at the start of a text, if there is one. -/
def behindSequence? (s : List Char) : Option (List Char) :=
  (Text.dropStart? ['\x1b', '['] s).bind behindNumbers?

lemma length_behindNumbers?_lt {s rest : List Char} (h : behindNumbers? s = some rest) :
    rest.length < s.length := by
  induction s with
  | nil => cases h
  | cons c s ih =>
      rw [behindNumbers?] at h
      split at h
      · obtain rfl := Option.some.inj h
        exact Nat.lt_succ_self _
      · split at h
        · exact Nat.lt_succ_of_lt (ih h)
        · cases h

lemma length_behindSequence?_lt {s rest : List Char} (h : behindSequence? s = some rest) :
    rest.length < s.length := by
  obtain ⟨behind, hstart, hnumbers⟩ := Option.bind_eq_some_iff.mp h
  rw [Text.dropStart?_eq_some_iff.mp hstart, List.length_append]
  exact Nat.lt_add_left _ (length_behindNumbers?_lt hnumbers)

/-- The text without its style sequences. -/
def stripped (s : List Char) : List Char :=
  match s with
  | [] => []
  | c :: rest =>
    match h : behindSequence? (c :: rest) with
    | some behind =>
      have : behind.length < (c :: rest).length := length_behindSequence?_lt h
      stripped behind
    | none => c :: stripped rest
termination_by s.length
decreasing_by
  · exact this
  · exact Nat.lt_succ_self _

/-- The text without its style sequences, as a string. -/
def strip (s : String) : String :=
  String.ofList (stripped s.toList)

variable {c : Char} {text rest : List Char}

lemma stripped_of_behindSequence? (h : behindSequence? text = some rest) :
    stripped text = stripped rest := by
  cases text with
  | nil => cases h
  | cons c text =>
      rw [stripped]
      split
      · next behind hbehind =>
        rw [h] at hbehind
        rw [Option.some.inj hbehind]
      · next hnone =>
        rw [h] at hnone
        cases hnone

lemma stripped_cons (h : c ≠ '\x1b') (rest : List Char) :
    stripped (c :: rest) = c :: stripped rest := by
  have hnone : behindSequence? (c :: rest) = none := by
    rw [behindSequence?, Text.dropStart?, if_neg (Ne.symm h), Option.bind_none]
  rw [stripped]
  split
  · next behind hbehind =>
    rw [hnone] at hbehind
    cases hbehind
  · rfl

/-- A text without escapes is left as it is. -/
lemma stripped_append (h : '\x1b' ∉ text) (rest : List Char) :
    stripped (text ++ rest) = text ++ stripped rest := by
  induction text with
  | nil => rfl
  | cons c text ih =>
      rw [List.mem_cons, not_or] at h
      rw [List.cons_append, stripped_cons (Ne.symm h.1), ih h.2, List.cons_append]

lemma behindNumbers?_append (h : ∀ c ∈ text, c.isDigit || c == ';') (rest : List Char) :
    behindNumbers? (text ++ 'm' :: rest) = some rest := by
  induction text with
  | nil => rfl
  | cons c text ih =>
      rw [List.forall_mem_cons] at h
      have hletter : c ≠ 'm' := by
        rintro rfl
        exact absurd h.1 (by decide)
      rw [List.cons_append, behindNumbers?, if_neg hletter, if_pos h.1, ih h.2]

/-- Numbers are written with digits and semicolons. -/
lemma of_mem_joined_numbers {numbers : List Nat}
    (h : c ∈ (Text.joined ";" (numbers.map toString)).toList) : c.isDigit || c == ';' := by
  have hnumber (n : Nat) (hc : c ∈ (toString n).toList) : c.isDigit := by
    rw [Nat.toString_eq_repr, Nat.toList_repr] at hc
    exact Nat.isDigit_of_mem_toDigits (by decide) (by decide) hc
  rw [Text.joined] at h
  induction numbers with
  | nil => cases h
  | cons n numbers ih =>
      cases numbers with
      | nil =>
          rw [List.map_singleton, String.intercalate_singleton] at h
          rw [hnumber n h, Bool.true_or]
      | cons m numbers =>
          rw [List.map_cons, List.map_cons, String.intercalate_cons_cons, String.toList_append,
            String.toList_append, List.mem_append, List.mem_append] at h
          rcases h with (hc | hc) | hc
          · rw [hnumber n hc, Bool.true_or]
          · rw [List.mem_singleton.mp hc]
            decide
          · exact ih hc

/-- **Style sequences are taken away**, whatever their numbers are. -/
theorem stripped_sequence (numbers : List Nat) (rest : List Char) :
    stripped ((sequence numbers).toList ++ rest) = stripped rest := by
  have htext : (sequence numbers).toList ++ rest =
      '\x1b' :: '[' :: ((Text.joined ";" (numbers.map toString)).toList ++ 'm' :: rest) := by
    simp [sequence]
  refine stripped_of_behindSequence? ?_
  rw [htext, behindSequence?]
  exact behindNumbers?_append (fun c => of_mem_joined_numbers) rest

/-! ## Styled texts -/

/-- **A text without escapes** stands as it is between the sequences of its style. -/
theorem toList_wrap (style : Style) {text : String} (h : '\x1b' ∉ text.toList) :
    (style.wrap text).toList = style.start.toList ++ (text.toList ++ reset.toList) := by
  have hreset : reset.toList = '\x1b' :: "[0m".toList := by decide
  rw [wrap, hreset, Text.replaced_eq_self h, String.ofList_toList, String.toList_append,
    String.toList_append, hreset, List.append_assoc]

end Style

/-! ## Lines -/

/-- The text of a piece is the same in colours and without them, but for style sequences. -/
lemma Span.stripped_render {s : Span} (h : '\x1b' ∉ s.text.toList) (rest : List Char) :
    Style.stripped ((s.render true).toList ++ rest) =
      (s.render false).toList ++ Style.stripped rest := by
  unfold Span.render
  cases s.style with
  | none => exact Style.stripped_append h rest
  | some style =>
      simp only [if_true, Bool.false_eq_true, if_false]
      rw [Style.toList_wrap style h, List.append_assoc, Style.start, Style.stripped_sequence,
        List.append_assoc, Style.stripped_append h, Style.reset, Style.stripped_sequence]

namespace Line

lemma text_cons (coloured : Bool) (s : Span) (line : Line) :
    text coloured (s :: line) = s.render coloured ++ text coloured line := by
  rw [text, List.map_cons, String.join_cons]
  rfl

lemma textOfAll_cons (coloured : Bool) (line : Line) (lines : List Line) :
    textOfAll coloured (line :: lines) = line.text coloured ++ "\n" ++ textOfAll coloured lines := by
  rw [textOfAll, List.map_cons, String.join_cons]
  rfl

lemma stripped_text {line : Line} (h : ∀ s ∈ line, '\x1b' ∉ s.text.toList) (rest : List Char) :
    Style.stripped ((text true line).toList ++ rest) =
      (text false line).toList ++ Style.stripped rest := by
  induction line with
  | nil => rfl
  | cons s line ih =>
      rw [List.forall_mem_cons] at h
      rw [text_cons, text_cons, String.toList_append, String.toList_append, List.append_assoc,
        Span.stripped_render h.1, ih h.2, List.append_assoc]

/-- **Lines in colours** are the lines without them, when their style sequences are taken away. -/
theorem strip_textOfAll {lines : List Line}
    (h : ∀ line ∈ lines, ∀ s ∈ line, '\x1b' ∉ s.text.toList) :
    Style.strip (textOfAll true lines) = textOfAll false lines := by
  have hstripped : Style.stripped (textOfAll true lines).toList = (textOfAll false lines).toList := by
    induction lines with
    | nil =>
        rw [textOfAll, List.map_nil, String.join_nil, String.toList_empty, Style.stripped]
        rfl
    | cons line lines ih =>
        rw [List.forall_mem_cons] at h
        have hend : '\x1b' ∉ ("\n" : String).toList := by decide
        rw [textOfAll_cons, textOfAll_cons, String.toList_append, String.toList_append,
          List.append_assoc, stripped_text h.1, Style.stripped_append hend, ih h.2,
          String.toList_append, String.toList_append, List.append_assoc]
  rw [Style.strip, hstripped, String.ofList_toList]

/-- The line with no style in any piece. -/
def unstyled (line : Line) : Line :=
  line.map fun s => .plain s.text

lemma text_unstyled (coloured : Bool) (line : Line) :
    text coloured line.unstyled = text false line := by
  have hplain (s : Span) : (Span.plain s.text).render coloured = s.render false := by
    unfold Span.render
    cases s.style <;> rfl
  rw [text, text, unstyled, List.map_map]
  exact congrArg String.join (List.map_congr_left fun s _ => hplain s)

/-- Lines without styles are written in one way. -/
lemma textOfAll_unstyled (coloured : Bool) (lines : List Line) :
    textOfAll coloured (lines.map unstyled) = textOfAll false lines := by
  rw [textOfAll, textOfAll, List.map_map]
  exact congrArg String.join (List.map_congr_left fun line _ =>
    congrArg (· ++ "\n") (text_unstyled coloured line))

end Line

end ScenarioRunner
