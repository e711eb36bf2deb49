import Mathlib.Data.List.TakeWhile
import Mathlib.Tactic.Common
import ScenarioRunner.Proofs.Backend.Chunks
import ScenarioRunner.Proofs.Text.Utf8

/-!
# Events line by line

The decoder cuts bytes at pairs of newlines, and reads a block as a whole.  A reader of lines need not
look for pairs: an empty line ends an event.

* `LineReader` reads an event stream in this way.  `LineReader.next` takes one line, and
  `LineReader.eventsOf` gives the events of bytes.
* `LineReader.read_linesOf_block`: the lines of a block give its event, as only the first of them may be
  empty.
* `LineReader.read_linesOf_of_cut`: what the blocks give one by one, the reader gives line by line.
* `EventDecoder.eventsOf_eq_lines`: the decoder gives the events of the reader.

The two ways part where newlines stand in runs of odd length.  The newline that is left of such a run
opens the next block with an empty line, which ends an event without data.
-/

namespace ScenarioRunner

/-! ## The reader of lines -/

namespace LineReader

open ServerEvent (Draft)

/-- The text before the first colon. -/
def field (line : List Char) : String :=
  String.ofList (line.takeWhile (· != ':'))

/-- The text behind the first colon, less one blank in front. -/
def value (line : List Char) : String :=
  let behind := (line.dropWhile (· != ':')).drop 1
  String.ofList (if behind.head? = some ' ' then behind.tail else behind)

/-- The lines of bytes. -/
def linesOf (bytes : List UInt8) : List (List Char) :=
  (bytes.splitOn 10).map Text.Utf8.decodeLossy

/-- The event that the fields so far make, if there is data. -/
def events (d : Draft) : List ServerEvent :=
  if d.data = [] then [] else [⟨d.name, d.id, "\n".intercalate d.data⟩]

/-- Takes a field with its value. -/
def take (d : Draft) (line : List Char) : Draft :=
  if field line = "data" then { d with data := d.data ++ [value line] }
  else if field line = "event" then { d with name := some (value line) }
  else if field line = "id" then { d with id := some (value line) }
  else d

/-- Takes one line: the events that it ends, and the fields behind it. -/
def next (d : Draft) (line : List Char) : List ServerEvent × Draft :=
  if line = [] then (events d, {})
  else if line.head? = some ':' then ([], d)
  else ([], take d line)

/-- Reads lines to their end, which ends an event too. -/
def read (d : Draft) : List (List Char) → List ServerEvent
  | [] => events d
  | line :: lines => (next d line).1 ++ read (next d line).2 lines

/-- The events of bytes, with carriage returns dropped. -/
def eventsOf (bytes : List UInt8) : List ServerEvent :=
  read {} (linesOf (bytes.filter (· != 13)))

end LineReader

/-! ## One line -/

namespace Text

lemma splitOnce_eq (sep : Char) (line : List Char) :
    splitOnce sep line =
      if sep ∈ line then some (line.takeWhile (· != sep), (line.dropWhile (· != sep)).drop 1)
      else none := by
  induction line with
  | nil => rfl
  | cons c rest ih =>
      by_cases hc : c = sep
      · simp [splitOnce, hc]
      · rw [splitOnce, if_neg hc, ih]
        by_cases hmem : sep ∈ rest <;> simp [hc, Ne.symm hc, hmem]

end Text

namespace LineReader

open ServerEvent (Draft)

variable {d : Draft} {line : List Char} {lines more : List (List Char)}
  {block bytes left : List UInt8} {blocks : List (List UInt8)}

lemma splitField_eq (line : List Char) :
    ServerEvent.splitField line = (field line, value line) := by
  rw [ServerEvent.splitField, Text.splitOnce_eq, field, value]
  by_cases hmem : ':' ∈ line
  · rw [if_pos hmem]
    cases (line.dropWhile (· != ':')).drop 1 with
    | nil => rfl
    | cons c rest =>
        by_cases hc : c = ' '
        · subst hc
          rfl
        · simp [hc]
  · rw [if_neg hmem]
    have hother : ∀ c ∈ line, (c != ':') = true := fun c hc =>
      bne_iff_ne.mpr (ne_of_mem_of_not_mem hc hmem)
    rw [List.takeWhile_eq_self_iff.mpr hother, List.dropWhile_eq_nil_iff.mpr hother]
    rfl

/-- A field with its value counts in the same way. -/
lemma store_eq_take (d : Draft) (line : List Char) :
    d.store (field line) (value line) = take d line := by
  unfold Draft.store take
  split
  · next h => rw [if_pos h]
  · next h => rw [if_neg (by rw [h]; decide), if_pos h]
  · next h => rw [if_neg (by rw [h]; decide), if_neg (by rw [h]; decide), if_pos h]
  · next hdata hevent hid => rw [if_neg hdata, if_neg hevent, if_neg hid]

lemma events_eq_toList (d : Draft) : events d = d.event?.toList := by
  unfold events Draft.event?
  cases d.data <;> rfl

/-- A line that is not empty ends no event. -/
lemma next_of_ne_nil (hline : line ≠ []) : next d line = ([], d.line line) := by
  cases line with
  | nil => exact absurd rfl hline
  | cons c rest =>
      by_cases hc : c = ':'
      · subst hc
        rfl
      · have hread : d.line (c :: rest) = take d (c :: rest) := by
          rw [← store_eq_take, Draft.line, splitField_eq]
          · exact List.cons_ne_nil c rest
          · rintro _ ⟨⟩
            exact hc rfl
        simp [next, hc, hread]

/-! ## The lines of blocks -/

lemma linesOf_append (before behind : List UInt8) :
    linesOf (before ++ 10 :: behind) = linesOf before ++ linesOf behind := by
  rw [linesOf, List.splitOn_append_cons_self, List.map_append]
  rfl

/-- **An empty line separates**: what stands before it and what stands behind it is read on its
own. -/
lemma read_append (d : Draft) (lines more : List (List Char)) :
    read d (lines ++ [] :: more) = read d lines ++ read {} more := by
  induction lines generalizing d with
  | nil => rfl
  | cons line lines ih => simp only [List.cons_append, read, ih, List.append_assoc]

lemma read_nil_cons (lines : List (List Char)) : read {} ([] :: lines) = read {} lines := rfl

/-- Lines that are not empty make one event. -/
lemma read_of_ne_nil (h : ∀ line ∈ lines, line ≠ []) :
    read d lines = events (lines.foldl Draft.line d) := by
  induction lines generalizing d with
  | nil => rfl
  | cons line lines ih =>
      obtain ⟨hline, hlines⟩ := List.forall_mem_cons.mp h
      rw [read, next_of_ne_nil hline, List.foldl_cons, List.nil_append, ih hlines]

/-- Also if the first of them is empty. -/
lemma read_of_tail_ne_nil (h : ∀ line ∈ lines.tail, line ≠ []) :
    read {} lines = events (lines.foldl Draft.line {}) := by
  cases lines with
  | nil => rfl
  | cons line lines =>
      by_cases hline : line = []
      · subst hline
        rw [read_nil_cons, List.foldl_cons]
        exact read_of_ne_nil h
      · exact read_of_ne_nil (List.forall_mem_cons.mpr ⟨hline, h⟩)

/-- Parts that are empty stand beside another newline, but for the first one. -/
lemma ne_nil_of_mem_tail_splitOn (h : ¬ EventStream.blank <:+: block ++ [10]) :
    ∀ part ∈ (block.splitOn 10).tail, part ≠ [] := by
  induction block with
  | nil => simp
  | cons b block ih =>
      have hrest : ¬ EventStream.blank <:+: block ++ [10] :=
        mt (fun hblank => hblank.trans (List.suffix_cons b _).isInfix) h
      rw [List.splitOn_cons_eq_if_modifyHead]
      split
      · next hb =>
        obtain rfl := beq_iff_eq.mp hb
        -- the newline makes the first part of the rest a further one
        cases block with
        | nil => exact absurd (List.infix_refl _) h
        | cons c block =>
            have hc : c ≠ 10 := by
              rintro rfl
              exact h ⟨[], block ++ [10], rfl⟩
            have hrest := ih hrest
            rw [List.splitOn_cons_eq_if_modifyHead, if_neg (by simpa using hc)] at hrest ⊢
            cases hparts : block.splitOn 10 with
            | nil => exact absurd hparts (List.splitOn_ne_nil 10 block)
            | cons first parts =>
                rw [hparts] at hrest
                exact List.forall_mem_cons.mpr ⟨List.cons_ne_nil c first, hrest⟩
      · have hrest := ih hrest
        cases hparts : block.splitOn 10 with
        | nil => exact absurd hparts (List.splitOn_ne_nil 10 block)
        | cons first parts =>
            rw [hparts] at hrest
            exact hrest

/-- **Lines of a block** may be empty at its start only. -/
lemma ne_nil_of_mem_tail (h : ¬ EventStream.blank <:+: block ++ [10]) :
    ∀ line ∈ (linesOf block).tail, line ≠ [] := by
  intro line hline
  rw [linesOf, ← List.map_tail] at hline
  obtain ⟨part, hpart, rfl⟩ := List.mem_map.mp hline
  exact mt Text.Utf8.decodeLossy_eq_nil_iff.mp (ne_nil_of_mem_tail_splitOn h part hpart)

lemma linesOf_ne_nil (bytes : List UInt8) : linesOf bytes ≠ [] :=
  mt List.map_eq_nil_iff.mp (List.splitOn_ne_nil 10 bytes)

lemma dropReturn_of_not_mem (h : '\r' ∉ line) : Text.dropReturn line = line := by
  unfold Text.dropReturn
  split
  · next before hreverse =>
    rw [← List.mem_reverse, hreverse] at h
    exact absurd List.mem_cons_self h
  · rfl

/-- Where there are no carriage returns, the decoder reads the same lines of a block. -/
lemma foldl_lines_decodeLossy (h : 13 ∉ block) :
    (Text.lines (Text.Utf8.decodeLossy block)).foldl Draft.line d =
      (linesOf block).foldl Draft.line d := by
  have hsplit : Text.splitOn '\n' (Text.Utf8.decodeLossy block) = linesOf block :=
    Text.Utf8.splitOn_decodeLossy (b := 10) (by decide) (by decide) block
  have hreturn : ∀ line ∈ linesOf block, Text.dropReturn line = line := by
    intro line hline
    obtain ⟨part, hpart, rfl⟩ := List.mem_map.mp hline
    refine dropReturn_of_not_mem fun hmem => h ?_
    have hbyte := Text.Utf8.mem_of_mem_decodeLossy hmem (by decide) (by decide)
    exact (Text.Utf8.of_mem_splitOn hpart hbyte).2
  obtain ⟨front, last, hlines⟩ :=
    List.eq_nil_or_concat (linesOf block) |>.resolve_left (linesOf_ne_nil block)
  rw [List.concat_eq_append] at hlines
  have hfront : front.map Text.dropReturn = front := by
    refine (List.map_congr_left fun line hline => ?_).trans (List.map_id front)
    exact hreturn line (hlines ▸ List.mem_append_left _ hline)
  rw [Text.lines, hsplit, hlines, List.reverse_concat]
  simp only [List.reverse_reverse, hfront]
  cases last with
  | nil => simp [Draft.line]
  | cons c last => rfl

/-! ## Blocks and lines -/

/-- **What a block gives** is the event of its lines. -/
lemma read_linesOf_block (h : ¬ EventStream.blank <:+: block ++ [10]) (hreturn : 13 ∉ block) :
    read {} (linesOf block) = (ServerEvent.ofBlock? block).toList := by
  rw [read_of_tail_ne_nil (ne_nil_of_mem_tail h), events_eq_toList, ServerEvent.ofBlock?,
    ServerEvent.ofLines?, foldl_lines_decodeLossy hreturn]

lemma read_concat_nil (lines : List (List Char)) : read {} (lines ++ [[]]) = read {} lines := by
  rw [read_append]
  exact List.append_nil _

/-- What is left at the end gives the event of its lines, too, though it may end with a newline. -/
lemma read_linesOf_left (h : ¬ EventStream.blank <:+: left) (hreturn : 13 ∉ left) :
    read {} (linesOf left) = (ServerEvent.ofBlock? left).toList := by
  rcases List.eq_nil_or_concat left with rfl | ⟨front, b, rfl⟩
  · rfl
  rw [List.concat_eq_append] at h hreturn ⊢
  by_cases hb : b = 10
  · subst hb
    have hlast : linesOf (front ++ [10]) = linesOf front ++ [[]] := linesOf_append front []
    have hblock : ServerEvent.ofBlock? (front ++ [10]) = ServerEvent.ofBlock? front := by
      rw [ServerEvent.ofBlock?, ServerEvent.ofLines?, foldl_lines_decodeLossy hreturn, hlast,
        List.foldl_concat, ← foldl_lines_decodeLossy (mt (List.mem_append_left _) hreturn)]
      rfl
    rw [hlast, read_concat_nil, hblock,
      read_linesOf_block h (mt (List.mem_append_left _) hreturn)]
  · refine read_linesOf_block ?_ hreturn
    rw [EventStream.blank_infix_concat_iff]
    exact not_or.mpr ⟨fun hboth => hb hboth.1, h⟩

/-- **What blocks give one by one, the reader gives line by line.** -/
theorem read_linesOf_of_cut (h : EventStream.Cut bytes blocks left) (hreturn : 13 ∉ bytes) :
    read {} (linesOf bytes) = (blocks ++ [left]).filterMap ServerEvent.ofBlock? := by
  rw [List.filterMap_eq_flatMap_toList]
  induction h with
  | rest hleft => rw [read_linesOf_left hleft hreturn, List.nil_append, List.flatMap_singleton]
  | @block block bytes left blocks hblock _ ih =>
      simp only [List.mem_append, not_or] at hreturn
      have hlines : linesOf (block ++ (EventStream.blank ++ bytes)) =
          linesOf block ++ [] :: linesOf bytes := by
        rw [EventStream.blank, List.cons_append, linesOf_append, List.cons_append]
        exact congrArg (linesOf block ++ ·) (linesOf_append [] bytes)
      rw [hlines, read_append, read_linesOf_block hblock hreturn.1, ih hreturn.2.2,
        List.cons_append, List.flatMap_cons]

/-! ## Runs of newlines -/

lemma read_replicate_append (n : Nat) (lines : List (List Char)) :
    read {} (List.replicate n [] ++ lines) = read {} lines := by
  induction n with
  | zero => rfl
  | succ n ih => rw [List.replicate_succ, List.cons_append, read_nil_cons, ih]

lemma linesOf_replicate_append (n : Nat) (bytes : List UInt8) :
    linesOf (List.replicate n 10 ++ bytes) = List.replicate n [] ++ linesOf bytes := by
  induction n with
  | zero => rfl
  | succ n ih =>
      rw [List.replicate_succ, List.cons_append, ← List.nil_append (10 :: _), linesOf_append, ih]
      rfl

/-- Newlines in front of bytes give no event. -/
lemma eventsOf_replicate_append (n : Nat) (bytes : List UInt8) :
    eventsOf (List.replicate n 10 ++ bytes) = eventsOf bytes := by
  rw [eventsOf, List.filter_append, List.filter_replicate_of_pos (by decide),
    linesOf_replicate_append, read_replicate_append, eventsOf]

/-- **A run of newlines separates**: what stands before it and behind it gives events of its own. -/
lemma eventsOf_append_replicate (n : Nat) (before behind : List UInt8) :
    eventsOf (before ++ (List.replicate (n + 2) 10 ++ behind)) =
      eventsOf before ++ eventsOf behind := by
  have hlines (before behind : List UInt8) :
      linesOf (before ++ (List.replicate (n + 2) 10 ++ behind)) =
        linesOf before ++ [] :: (List.replicate n [] ++ linesOf behind) := by
    rw [List.replicate_succ, List.cons_append, linesOf_append, linesOf_replicate_append,
      List.replicate_succ, List.cons_append]
  rw [eventsOf, List.filter_append, List.filter_append, List.filter_replicate_of_pos (by decide),
    hlines, read_append, read_replicate_append, eventsOf, eventsOf]

/-- Newlines behind bytes end no further event. -/
lemma eventsOf_concat_replicate (n : Nat) (bytes : List UInt8) :
    eventsOf (bytes ++ List.replicate n 10) = eventsOf bytes := by
  rw [eventsOf, List.filter_append, List.filter_replicate_of_pos (by decide), eventsOf]
  cases n with
  | zero => rw [List.replicate_zero, List.append_nil]
  | succ n =>
      have hlast : linesOf (List.replicate n 10) = List.replicate n [] ++ [[]] := by
        have hlast := linesOf_replicate_append n []
        rwa [List.append_nil] at hlast
      have hnone : read {} (List.replicate n []) = [] := by
        simpa [read, events] using read_replicate_append n []
      rw [List.replicate_succ, linesOf_append, hlast, ← List.replicate_succ', List.replicate_succ,
        read_append, hnone, List.append_nil]

/-- **Without data there is no event**, whatever other fields and lines there are. -/
lemma read_eq_nil_iff :
    read d lines = [] ↔ d.data = [] ∧ ¬ ∃ line ∈ lines, field line = "data" := by
  induction lines generalizing d with
  | nil => simp [read, events]
  | cons line lines ih =>
      rw [read, List.append_eq_nil_iff, ih, List.exists_mem_cons_iff, not_or, next]
      split
      · next hline =>
        subst hline
        simp [events, field]
      split
      · next hcolon =>
        have hfield : field line ≠ "data" := by
          cases line with
          | nil => simp at hcolon
          | cons c rest =>
              obtain rfl := Option.some.inj hcolon
              simp [field]
        simp [hfield]
      · by_cases hfield : field line = "data"
        · simp [take, hfield]
        · have hdata : (take d line).data = d.data := by
            rw [take, if_neg hfield]
            split
            · rfl
            · split <;> rfl
          simp [hfield, hdata]

end LineReader

namespace EventDecoder

/-- The events of bytes that come in one chunk, and then end. -/
def eventsOf (bytes : List UInt8) : List ServerEvent :=
  (empty.push bytes).1 ++ (empty.push bytes).2.finish.1.toList

/-- **The decoder reads an event stream line by line.** -/
lemma eventsOf_eq (bytes : List UInt8) : eventsOf bytes = LineReader.eventsOf bytes := by
  obtain ⟨blocks, left, hcut, hevents⟩ := exists_cut_of_decode [bytes]
  rw [List.flatten_singleton] at hcut
  have hreturn : 13 ∉ bytes.filter (· != 13) := by simp
  rw [LineReader.eventsOf, LineReader.read_linesOf_of_cut hcut hreturn, ← hevents]
  simp [eventsOf, decode, pushAll]

/-- **The decoder gives the events of a reader of lines**, for all bytes.  So a run of two or more
newlines separates the events before it from those behind it, newlines at the start and at the end
make no difference, and there is no event exactly if no line has data. -/
theorem eventsOf_eq_lines (bytes : List UInt8) :
    eventsOf bytes = LineReader.eventsOf bytes ∧
      (∀ (n : Nat) (behind : List UInt8),
        eventsOf (bytes ++ (List.replicate (n + 2) 10 ++ behind)) =
          eventsOf bytes ++ eventsOf behind) ∧
      (∀ n : Nat, eventsOf (List.replicate n 10 ++ bytes) = eventsOf bytes) ∧
      (∀ n : Nat, eventsOf (bytes ++ List.replicate n 10) = eventsOf bytes) ∧
      (eventsOf bytes = [] ↔
        ¬ ∃ line ∈ LineReader.linesOf (bytes.filter (· != 13)), LineReader.field line = "data") := by
  simp only [eventsOf_eq]
  refine ⟨trivial, fun n => LineReader.eventsOf_append_replicate n bytes,
    fun n => LineReader.eventsOf_replicate_append n bytes,
    fun n => LineReader.eventsOf_concat_replicate n bytes, ?_⟩
  rw [LineReader.eventsOf, LineReader.read_eq_nil_iff]
  exact and_iff_right rfl

/-- Three newlines in a row, a comment, a value with two blanks in front, and no newline at the end. -/
example :
    LineReader.eventsOf
        "id: 1\ndata: a\ndata:  b\n\n\n: c\nevent: e\ndata".toUTF8.toList =
      [⟨none, some "1", "a\n b"⟩, ⟨some "e", none, ""⟩] := by decide +kernel

end EventDecoder

end ScenarioRunner
