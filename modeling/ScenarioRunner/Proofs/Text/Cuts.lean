import Mathlib.Data.List.Basic
import ScenarioRunner.Text.Split

/-!
# Parts of texts

A text is cut at every occurrence of a separator.

* `Text.segments_append` and `Text.joined_segments`: what stands behind a separator is cut on its own,
  and the parts of a text make it up.
* `Text.segments_joined`: parts without separators are found again.
* `Text.segments_prefix_iff`: the parts of one text come first among those of another one, and are not
  all of them, exactly if the other text goes on behind the first one with a separator.
* `Text.dropStart?_eq_some_iff`: what is dropped from the start of a text.
-/

namespace ScenarioRunner

namespace Text

variable {sep : Char} {mark : String}

/-- Texts are cut as lists are. -/
lemma splitOn_eq (sep : Char) (s : List Char) : splitOn sep s = s.splitOn sep := by
  induction s with
  | nil => rw [List.splitOn_nil, splitOn]
  | cons c rest ih =>
      simp only [splitOn, List.splitOn_cons_eq_if_modifyHead, ih, beq_iff_eq]
      cases h : List.splitOn sep rest with
      | nil => exact absurd h (List.splitOn_ne_nil sep rest)
      | cons part parts => rfl

lemma segments_eq (sep : Char) (s : String) :
    segments sep s = (s.toList.splitOn sep).map String.ofList := by
  rw [segments, splitOn_eq]

lemma segments_ne_nil (sep : Char) (s : String) : segments sep s ≠ [] := by
  rw [segments_eq]
  exact mt List.map_eq_nil_iff.mp (List.splitOn_ne_nil sep s.toList)

/-- A text without separators is one part. -/
lemma segments_of_not_mem {s : String} (h : sep ∉ s.toList) : segments sep s = [s] := by
  rw [segments_eq, List.splitOn_eq_singleton h, List.map_singleton, String.ofList_toList]

/-- What stands behind a separator is cut on its own. -/
lemma segments_append {s before behind : String}
    (h : s.toList = before.toList ++ sep :: behind.toList) :
    segments sep s = segments sep before ++ segments sep behind := by
  simp only [segments_eq, h, List.splitOn_append_cons_self, List.map_append]

/-- Parts without separators are found again. -/
lemma segments_joined (hmark : mark.toList = [sep]) {parts : List String} (hne : parts ≠ [])
    (h : ∀ part ∈ parts, sep ∉ part.toList) : segments sep (joined mark parts) = parts := by
  have hparts : ∀ cs ∈ parts.map String.toList, sep ∉ cs := by
    rintro _ hcs
    obtain ⟨part, hpart, rfl⟩ := List.mem_map.mp hcs
    exact h part hpart
  rw [segments_eq, joined, String.toList_intercalate, hmark,
    List.splitOn_intercalate sep hparts (mt List.map_eq_nil_iff.mp hne), List.map_map]
  exact (List.map_congr_left fun part _ => String.ofList_toList).trans (List.map_id parts)

/-- The parts of a text make it up. -/
lemma joined_segments (hmark : mark.toList = [sep]) (s : String) :
    joined mark (segments sep s) = s := by
  have hparts : (s.toList.splitOn sep).map (String.toList ∘ String.ofList) = s.toList.splitOn sep :=
    (List.map_congr_left fun part _ => String.toList_ofList).trans (List.map_id _)
  rw [← String.toList_inj, joined, String.toList_intercalate, segments_eq, List.map_map, hparts,
    hmark, List.intercalate_splitOn]

/-- **Parts in front are a text in front**: the parts of one text come first among those of another
one, and others come behind them, exactly if the other text goes on with a separator where the first
one ends. -/
theorem segments_prefix_iff {front s : String} :
    segments sep front <+: segments sep s ∧ segments sep front ≠ segments sep s ↔
      ∃ rest, s.toList = front.toList ++ sep :: rest := by
  have hmark : (String.singleton sep).toList = [sep] := String.toList_singleton sep
  constructor
  · rintro ⟨⟨more, hmore⟩, hne⟩
    have hmore_ne : more ≠ [] := by
      rintro rfl
      exact hne ((List.append_nil _).symm.trans hmore)
    refine ⟨(joined (String.singleton sep) more).toList, ?_⟩
    rw [← joined_segments hmark s, ← hmore, joined,
      String.intercalate_append_of_ne_nil (segments_ne_nil sep front) hmore_ne, ← joined,
      joined_segments hmark front, String.toList_append, String.toList_append, hmark,
      List.append_assoc, List.singleton_append, ← joined]
  · rintro ⟨rest, hrest⟩
    have happend : segments sep s = segments sep front ++ segments sep (String.ofList rest) :=
      segments_append (by rw [hrest, String.toList_ofList])
    rw [happend]
    refine ⟨List.prefix_append _ _, fun heq => segments_ne_nil sep (String.ofList rest) ?_⟩
    exact List.append_right_eq_self.mp heq.symm

/-- What is dropped stands at the start of the text. -/
lemma dropStart?_eq_some_iff {part s rest : List Char} :
    dropStart? part s = some rest ↔ s = part ++ rest := by
  induction part generalizing s with
  | nil =>
      cases s <;> simp [dropStart?]
  | cons p part ih =>
      cases s with
      | nil => simp [dropStart?]
      | cons c s =>
          rw [dropStart?, Option.ite_none_right_eq_some, ih, List.cons_append, List.cons.injEq,
            eq_comm (a := p)]

end Text

end ScenarioRunner
