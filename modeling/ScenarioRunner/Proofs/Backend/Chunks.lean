import Mathlib.Tactic.Common
import ScenarioRunner.Backend.EventStream

/-!
# Events do not depend on chunks

The events of a stream are fixed by its bytes, however these are cut into chunks and wherever carriage
returns stand between them.

* `EventStream.Cut` cuts bytes at the pairs of newlines, from the left.  `EventStream.cut_blocks`: the
  decoder cuts its buffer like that.
* `EventStream.Cut.append`: bytes that come later do not move the cuts before them, and
  `EventStream.Cut.unique`: there is one way to cut.
* `EventDecoder.decode` gives all events of some chunks, the one left at the end among them.
* `EventDecoder.decode_eq_of_chunks`: they are the events of the blocks between the cuts.

Between two chunks the decoder holds what is left behind the last cut.  That holds no pair of newlines,
but it may end with the first one of a pair, or within a character.
-/

namespace ScenarioRunner

namespace EventStream

/-- Two newlines in a row. -/
def blank : List UInt8 := [10, 10]

/-- **The cuts of bytes**: the blocks in front of pairs of newlines, found from the left, and what is
left behind the last pair.  The first pair is the one behind the first block, if up to its first
newline there is none. -/
inductive Cut : List UInt8 → List (List UInt8) → List UInt8 → Prop where
  | rest {left : List UInt8} (hleft : ¬ blank <:+: left) : Cut left [] left
  | block {block bytes left : List UInt8} {blocks : List (List UInt8)}
    (hblock : ¬ blank <:+: block ++ [10]) (hrest : Cut bytes blocks left) :
    Cut (block ++ (blank ++ bytes)) (block :: blocks) left

lemma no_blank_of_length_lt {bytes : List UInt8} (h : bytes.length < 2) : ¬ blank <:+: bytes :=
  fun hblank => absurd hblank.length_le (Nat.not_le.mpr h)

/-- Only the last two bytes can make a new pair. -/
lemma blank_infix_concat_iff {front : List UInt8} {b c : UInt8} :
    blank <:+: front ++ [b] ++ [c] ↔ (b = 10 ∧ c = 10) ∨ blank <:+: front ++ [b] := by
  rw [List.infix_concat_iff, List.append_assoc]
  refine or_congr_left ⟨?_, ?_⟩
  · rintro ⟨before, h⟩
    have hlast := (List.append_inj_right' h rfl : blank = [b] ++ [c])
    exact ⟨(List.cons.inj hlast).1.symm, (List.cons.inj (List.cons.inj hlast).2).1.symm⟩
  · rintro ⟨rfl, rfl⟩
    exact ⟨front, rfl⟩

namespace Cut

variable {bytes more left left' : List UInt8} {blocks blocks' : List (List UInt8)}

lemma not_infix_left (h : Cut bytes blocks left) : ¬ blank <:+: left := by
  induction h with
  | rest hleft => exact hleft
  | block _ _ ih => exact ih

/-- **Bytes that come later** are cut together with what is left of those before. -/
theorem append (h : Cut bytes blocks left) (hmore : Cut (left ++ more) blocks' left') :
    Cut (bytes ++ more) (blocks ++ blocks') left' := by
  induction h with
  | rest => exact hmore
  | @block block bytes left blocks hblock _ ih =>
      rw [List.append_assoc, List.append_assoc]
      exact .block hblock (ih hmore)

/-- A block does not reach beyond the first pair of newlines. -/
lemma length_le_of_append_eq {front front' back back' : List UInt8}
    (h : front ++ (blank ++ back) = front' ++ (blank ++ back'))
    (hfront : ¬ blank <:+: front ++ [10]) : front.length ≤ front'.length := by
  by_contra hlonger
  refine hfront ?_
  obtain ⟨rest, rfl, hrest⟩ :
      ∃ rest, front = front' ++ rest ∧ blank ++ back' = rest ++ (blank ++ back) := by
    rcases List.append_eq_append_iff.mp h with ⟨rest, rfl, -⟩ | hrest
    · exact absurd (List.length_append ▸ Nat.le_add_right _ _) hlonger
    · exact hrest
  rw [List.append_assoc]
  refine List.infix_append_of_infix_right ?_
  match rest with
  | [] => simp at hlonger
  | [b] =>
      obtain rfl := (List.cons.inj hrest).1
      exact ⟨[], [], rfl⟩
  | b :: c :: rest =>
      obtain ⟨rfl, htail⟩ := List.cons.inj hrest
      obtain rfl := (List.cons.inj htail).1
      exact ⟨[], rest ++ [10], rfl⟩

/-- **There is one way to cut bytes.** -/
theorem unique (h : Cut bytes blocks left) (h' : Cut bytes blocks' left') :
    blocks = blocks' ∧ left = left' := by
  induction h generalizing blocks' with
  | @rest left hleft =>
      cases h' with
      | rest => exact ⟨rfl, rfl⟩
      | @block block bytes => exact absurd ⟨block, bytes, List.append_assoc ..⟩ hleft
  | @block block bytes left blocks hblock _ ih =>
      generalize hcut : block ++ (blank ++ bytes) = whole at h'
      cases h' with
      | rest hleft => exact absurd ⟨block, bytes, (List.append_assoc ..).trans hcut⟩ hleft
      | @block block' bytes' _ blocks' hblock' hrest' =>
          have hlength := Nat.le_antisymm (length_le_of_append_eq hcut hblock)
            (length_le_of_append_eq hcut.symm hblock')
          obtain ⟨rfl, hbehind⟩ := List.append_inj hcut hlength
          obtain rfl := List.append_cancel_left hbehind
          obtain ⟨rfl, rfl⟩ := ih hrest'
          exact ⟨rfl, rfl⟩

end Cut

/-- The decoder cuts bytes from those on that it has read since the last cut. -/
lemma cut_blocksFrom (current bytes : List UInt8)
    (h : ¬ blank <:+: current.reverse ++ bytes.take 1) :
    Cut (current.reverse ++ bytes) (blocksFrom current bytes).1 (blocksFrom current bytes).2 := by
  fun_induction blocksFrom current bytes with
  | case1 current => simpa using Cut.rest (by simpa using h)
  | case2 current rest blocks left hblocks ih =>
      have hrest := ih (no_blank_of_length_lt (Nat.lt_succ_of_le (List.length_take_le 1 rest)))
      rw [hblocks] at hrest
      exact .block h hrest
  | case3 current b rest hpair ih =>
      have hshift : (b :: current).reverse ++ rest = current.reverse ++ b :: rest := by simp
      rw [hshift] at ih
      refine ih ?_
      cases rest with
      | nil => simpa using h
      | cons c rest =>
          have hnext : ¬ blank <:+: current.reverse ++ [b] ++ [c] := by
            rw [blank_infix_concat_iff]
            exact not_or.mpr ⟨fun hboth => hpair rest hboth.1 (by rw [hboth.2]), h⟩
          simpa using hnext

/-- **The decoder cuts at the pairs of newlines.** -/
theorem cut_blocks (bytes : List UInt8) : Cut bytes (blocks bytes).1 (blocks bytes).2 :=
  cut_blocksFrom [] bytes (no_blank_of_length_lt (Nat.lt_succ_of_le (List.length_take_le 1 bytes)))

end EventStream

namespace EventDecoder

open EventStream

/-- All events of chunks: those that they complete, and the one that is left at their end. -/
def decode (chunks : List (List UInt8)) : List ServerEvent :=
  (empty.pushAll chunks).1 ++ (empty.pushAll chunks).2.finish.1.toList

/-- **What chunks complete** are the blocks up to the last cut, and the decoder holds what is left. -/
theorem exists_cut_of_pushAll (chunks : List (List UInt8)) (d : EventDecoder)
    (h : ¬ blank <:+: d.buffer) :
    ∃ blocks, Cut (d.buffer ++ chunks.flatten.filter (· != 13)) blocks (d.pushAll chunks).2.buffer ∧
      (d.pushAll chunks).1 = blocks.filterMap ServerEvent.ofBlock? := by
  induction chunks generalizing d with
  | nil => exact ⟨[], by simpa [pushAll] using Cut.rest h, rfl⟩
  | cons chunk chunks ih =>
      have hfirst := cut_blocks (d.buffer ++ clean chunk)
      obtain ⟨more, hmore, hevents⟩ := ih (d.push chunk).2 hfirst.not_infix_left
      refine ⟨(blocks (d.buffer ++ clean chunk)).1 ++ more, ?_, ?_⟩
      · have hclean : (chunk :: chunks).flatten.filter (· != 13) =
            clean chunk ++ chunks.flatten.filter (· != 13) := by
          rw [List.flatten_cons, List.filter_append]
          rfl
        rw [hclean, ← List.append_assoc]
        exact hfirst.append hmore
      · rw [List.filterMap_append, ← hevents]
        rfl

/-- **The events of chunks** are those of the blocks between the cuts of their bytes, without carriage
returns, and of what is left. -/
lemma exists_cut_of_decode (chunks : List (List UInt8)) :
    ∃ blocks left, Cut (chunks.flatten.filter (· != 13)) blocks left ∧
      decode chunks = (blocks ++ [left]).filterMap ServerEvent.ofBlock? := by
  obtain ⟨blocks, hcut, hevents⟩ := exists_cut_of_pushAll chunks empty (no_blank_of_length_lt (by decide))
  refine ⟨blocks, _, hcut, ?_⟩
  rw [decode, hevents, List.filterMap_append, finish]
  cases h : ServerEvent.ofBlock? (empty.pushAll chunks).2.buffer with
  | none => simp [h]
  | some event => simp [h]

/-- **Events do not depend on chunks.**  However bytes are cut into chunks, and wherever carriage
returns stand in them, their events are those of all bytes but the carriage returns in one chunk: of
each block in front of a pair of newlines, and of what is left at the end. -/
theorem decode_eq_of_chunks (chunks : List (List UInt8)) :
    decode chunks = decode [chunks.flatten.filter (· != 13)] ∧
      ∃ blocks left, Cut (chunks.flatten.filter (· != 13)) blocks left ∧
        decode chunks = (blocks ++ [left]).filterMap ServerEvent.ofBlock? := by
  obtain ⟨blocks, left, hcut, hevents⟩ := exists_cut_of_decode chunks
  obtain ⟨blocks', left', hcut', hevents'⟩ :=
    exists_cut_of_decode [chunks.flatten.filter (· != 13)]
  have hwhole : [chunks.flatten.filter (· != 13)].flatten.filter (· != 13) =
      chunks.flatten.filter (· != 13) := by
    rw [List.flatten_singleton, List.filter_filter]
    simp only [Bool.and_self]
  rw [hwhole] at hcut'
  obtain ⟨rfl, rfl⟩ := hcut.unique hcut'
  exact ⟨hevents.trans hevents'.symm, blocks, left, hcut, hevents⟩

/-- The cuts may lie within a line, a character and a pair of newlines. -/
example :
    decode [[100, 97, 116, 97, 58, 195], [], [13, 169, 10, 13], [10, 100]] =
      [⟨none, none, "é"⟩] := by decide +kernel

end EventDecoder

end ScenarioRunner
