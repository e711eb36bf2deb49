import ScenarioRunner.Proofs.Discovery.Shape

/-!
# Identifiers as texts

An identifier is written as `[kind:value]/[kind:value]`, whatever stands in its kinds and values.  The
end of a segment with the start of the next one, `]/[`, can stand in a value as well, so that different
identifiers can have one text.

* `NodeId.text_eq_text_iff`: two identifiers have one text exactly if their segments, cut at every
  `]/[`, come to the same pieces.
* `NodeId.Legible` holds of identifiers in which nothing can be mistaken, and `NodeId.Legible.text_inj`:
  these are told apart by their texts.
* `NodeId.Levelled` holds of lists of segments with the kinds of a discovered tree in which no value
  seems to end before a segment of the next kind.  `NodeId.Levelled.woven_inj`: these are told apart too.
* `Discovery.text_inj_discover`: in a discovered tree, nodes with different identifiers have different
  texts unless the name of a class or of a producer has such a place.
-/

namespace ScenarioRunner

namespace Text

variable {mark rest x y z r s : List Char} {c : Char}

/-- What does not hold a character stands on one side of it. -/
lemma infix_of_infix_append_cons (hc : c ∉ mark) (h : mark <:+: x ++ c :: y) :
    mark <:+: x ∨ mark <:+: y := by
  obtain ⟨before, behind, h⟩ := h
  obtain ⟨as, rfl, -⟩ | ⟨bs, hbefore, hy⟩ := List.append_eq_append_iff.mp h
  · exact Or.inl ⟨before, as, rfl⟩
  cases bs with
  | nil => exact Or.inl ⟨before, [], by rw [hbefore, List.append_nil, List.append_nil]⟩
  | cons b bs =>
      obtain ⟨rfl, rfl⟩ := List.cons.inj hy
      obtain ⟨as, -, rfl⟩ | ⟨bs', -, hbs⟩ := List.append_eq_append_iff.mp hbefore
      · exact absurd (List.mem_append_right as List.mem_cons_self) hc
      · cases bs' with
        | nil =>
            obtain rfl : c :: bs = mark := hbs
            exact absurd List.mem_cons_self hc
        | cons b' bs' =>
            obtain ⟨-, rfl⟩ := List.cons.inj hbs
            exact Or.inr ⟨bs', behind, rfl⟩

/-- A mark does not start within another one if its first character stands nowhere else in it. -/
lemma eq_nil_of_mark_append (hc : c ∉ rest) (hz : ¬ c :: rest <:+: z)
    (h : (c :: rest) ++ r = z ++ ((c :: rest) ++ s)) : z = [] := by
  obtain ⟨as, rfl, -⟩ | ⟨bs, hmark, hbs⟩ := List.append_eq_append_iff.mp h
  · exact absurd (List.prefix_append ..).isInfix hz
  cases z with
  | nil => rfl
  | cons d z =>
      cases bs with
      | nil =>
          rw [List.append_nil] at hmark
          exact absurd (hmark ▸ List.infix_rfl) hz
      | cons b bs =>
          obtain rfl := (List.cons.inj hbs).1
          have hrest : rest = z ++ c :: bs := (List.cons.inj hmark).2
          exact absurd (hrest ▸ List.mem_append_right z List.mem_cons_self) hc

/-- **The first mark** in a text is found in one place only. -/
lemma append_mark_cancel (hc : c ∉ rest) (hx : ¬ c :: rest <:+: x) (hy : ¬ c :: rest <:+: y)
    (h : x ++ ((c :: rest) ++ r) = y ++ ((c :: rest) ++ s)) : x = y ∧ r = s := by
  have hsame : x = y := by
    obtain ⟨as, rfl, has⟩ | ⟨bs, rfl, hbs⟩ := List.append_eq_append_iff.mp h
    · have hnil := eq_nil_of_mark_append hc
        (fun hwithin => hy (List.infix_append_of_infix_right hwithin)) has
      rw [hnil, List.append_nil]
    · have hnil := eq_nil_of_mark_append hc
        (fun hwithin => hx (List.infix_append_of_infix_right hwithin)) hbs
      rw [hnil, List.append_nil]
  subst hsame
  exact ⟨rfl, List.append_cancel_left (List.append_cancel_left h)⟩

end Text

namespace NodeId

/-! ## Texts as segments one after the other -/

/-- What stands between the brackets of a segment. -/
def body (segment : String × String) : List Char :=
  segment.1.toList ++ ':' :: segment.2.toList

/-- The end of a segment with the start of the next one. -/
def seam : List Char :=
  [']', '/', '[']

/-- Segments one after the other, each with a seam behind it. -/
def woven (segments : List (String × String)) : List Char :=
  segments.flatMap fun segment => body segment ++ seam

variable {segment : String × String} {segments others : List (String × String)} {a b : NodeId}

lemma woven_cons :
    woven (segment :: segments) = body segment ++ (seam ++ woven segments) := by
  rw [woven, List.flatMap_cons, List.append_assoc]
  rfl

lemma toList_segmentText (segment : String × String) :
    (segmentText segment).toList = '[' :: (body segment ++ [']']) := by
  simp [segmentText, body]

/-- The text of an identifier, made complete by the seam that its last bracket would start. -/
lemma toList_joined (segment : String × String) (segments : List (String × String)) :
    (Text.joined "/" ((segment :: segments).map segmentText)).toList ++ ['/', '['] =
      '[' :: woven (segment :: segments) := by
  induction segments generalizing segment with
  | nil =>
      rw [List.map_singleton, Text.joined, String.intercalate_singleton, toList_segmentText, woven_cons]
      simp [seam, woven]
  | cons next segments ih =>
      have hnext := ih next
      rw [List.map_cons, Text.joined] at hnext
      rw [List.map_cons, List.map_cons, Text.joined, String.intercalate_cons_cons, String.toList_append,
        String.toList_append, toList_segmentText, List.append_assoc, hnext]
      simp [seam, woven]

lemma woven_eq_nil_iff : woven segments = [] ↔ segments = [] := by
  cases segments with
  | nil => exact iff_of_true rfl rfl
  | cons segment segments => simp [woven_cons, seam]

/-- Two texts are the same if what is woven is. -/
lemma text_eq_text_iff_woven : a.text = b.text ↔ woven a.segments = woven b.segments := by
  obtain ⟨as⟩ := a
  obtain ⟨bs⟩ := b
  have hempty : ∀ segment segments, (⟨segment :: segments⟩ : NodeId).text ≠ "" := by
    intro segment segments h
    have hlist := toList_joined segment segments
    have htext : Text.joined "/" ((segment :: segments).map segmentText) = "" := h
    rw [htext] at hlist
    exact absurd (List.cons.inj hlist).1 (by decide)
  cases as with
  | nil =>
      cases bs with
      | nil => exact iff_of_true rfl rfl
      | cons t ts =>
          exact iff_of_false (fun h => hempty t ts h.symm)
            fun h => List.cons_ne_nil t ts (woven_eq_nil_iff.mp h.symm)
  | cons s ss =>
      cases bs with
      | nil =>
          exact iff_of_false (hempty s ss) fun h => List.cons_ne_nil s ss (woven_eq_nil_iff.mp h)
      | cons t ts =>
          have hs : (⟨s :: ss⟩ : NodeId).text.toList ++ ['/', '['] = '[' :: woven (s :: ss) :=
            toList_joined s ss
          have ht : (⟨t :: ts⟩ : NodeId).text.toList ++ ['/', '['] = '[' :: woven (t :: ts) :=
            toList_joined t ts
          rw [← String.toList_inj, ← List.append_left_inj ['/', '['], hs, ht, List.cons_inj_right]

/-! ## Pieces -/

/-- A text cut at its seams, from the left. -/
def parts : List Char → List (List Char)
  | [] => [[]]
  | ']' :: '/' :: '[' :: rest => [] :: parts rest
  | c :: rest => (parts rest).modifyHead (c :: ·)

/-- The pieces of an identifier: its segments, each cut at the seams that it holds. -/
def pieces (id : NodeId) : List (List Char) :=
  id.segments.flatMap fun segment => parts (body segment)

lemma parts_ne_nil (s : List Char) : parts s ≠ [] := by
  fun_induction parts s with
  | case1 => simp
  | case2 => simp
  | case3 c rest _ ih => simpa using ih

/-- The parts of a text make it up. -/
lemma intercalate_parts (s : List Char) : seam.intercalate (parts s) = s := by
  fun_induction parts s with
  | case1 => rfl
  | case2 rest ih =>
      obtain ⟨part, more, hparts⟩ := List.exists_cons_of_ne_nil (parts_ne_nil rest)
      rw [hparts] at ih ⊢
      rw [List.intercalate_cons_cons, ih]
      rfl
  | case3 c rest _ ih =>
      obtain ⟨part, more, hparts⟩ := List.exists_cons_of_ne_nil (parts_ne_nil rest)
      rw [hparts] at ih ⊢
      cases more with
      | nil =>
          rw [List.intercalate_singleton] at ih
          rw [List.modifyHead_cons, List.intercalate_singleton, ih]
      | cons next more =>
          rw [List.intercalate_cons_cons] at ih
          rw [List.modifyHead_cons, List.intercalate_cons_cons, List.cons_append, List.cons_append, ih]

lemma parts_injective {s t : List Char} (h : parts s = parts t) : s = t := by
  rw [← intercalate_parts s, h, intercalate_parts]

/-- No seam begins with a bracket and ends within the next seam. -/
lemma append_seam_ne {rest : List Char} (h : ∀ behind, rest ≠ '/' :: '[' :: behind)
    (t behind : List Char) : rest ++ (seam ++ t) ≠ '/' :: '[' :: behind := by
  intro heq
  match rest with
  | [] => exact absurd (List.cons.inj heq).1 (by decide)
  | [c] => exact absurd (List.cons.inj (List.cons.inj heq).2).1 (by decide)
  | c :: d :: rest =>
      obtain ⟨rfl, htail⟩ := List.cons.inj heq
      obtain ⟨rfl, -⟩ := List.cons.inj htail
      exact h rest rfl

/-- **A seam separates**: what stands on its sides is cut on its own. -/
lemma parts_append (s t : List Char) : parts (s ++ (seam ++ t)) = parts s ++ parts t := by
  fun_induction parts s with
  | case1 => rfl
  | case2 rest ih =>
      show [] :: parts (rest ++ (seam ++ t)) = _
      rw [ih]
      rfl
  | case3 c rest hno ih =>
      obtain ⟨part, more, hparts⟩ := List.exists_cons_of_ne_nil (parts_ne_nil rest)
      rw [List.cons_append, parts, ih, hparts]
      · rfl
      · rintro behind rfl
        exact append_seam_ne (fun r => hno r rfl) t behind

/-- The pieces of what is woven are those of the identifier, and nothing behind the last seam. -/
lemma parts_woven (segments : List (String × String)) :
    parts (woven segments) = pieces ⟨segments⟩ ++ [[]] := by
  induction segments with
  | nil => rfl
  | cons segment segments ih =>
      rw [woven_cons, parts_append, ih, pieces, pieces, List.flatMap_cons, List.append_assoc]

/-- **When two identifiers have one text**: exactly if they come to the same pieces. -/
theorem text_eq_text_iff : a.text = b.text ↔ a.pieces = b.pieces := by
  rw [text_eq_text_iff_woven]
  constructor
  · intro h
    have hparts := congrArg parts h
    rw [parts_woven, parts_woven] at hparts
    exact List.append_cancel_right hparts
  · intro h
    refine parts_injective ?_
    rw [parts_woven, parts_woven]
    exact congrArg (· ++ [[]]) h

/-! ## Segments that can be read -/

/-- A text without a seam is one part. -/
lemma parts_of_not_isInfix {s : List Char} (h : ¬ seam <:+: s) : parts s = [s] := by
  fun_induction parts s with
  | case1 => rfl
  | case2 rest => exact absurd ⟨[], rest, rfl⟩ h
  | case3 c rest _ ih =>
      rw [ih fun hwithin => h (hwithin.trans (List.suffix_cons c rest).isInfix)]
      rfl

/-- **Nothing in the identifier can be mistaken**: no kind holds a colon, and no kind and no value holds
a seam. -/
def Legible (id : NodeId) : Prop :=
  ∀ segment ∈ id.segments, ':' ∉ segment.1.toList ∧ ¬ seam <:+: segment.1.toList ∧
    ¬ seam <:+: segment.2.toList

lemma Legible.pieces_eq (h : a.Legible) : a.pieces = a.segments.map body := by
  have hparts : ∀ segment ∈ a.segments, parts (body segment) = [body segment] := by
    intro segment hsegment
    obtain ⟨-, hkind, hvalue⟩ := h segment hsegment
    refine parts_of_not_isInfix fun hwithin => ?_
    exact (Text.infix_of_infix_append_cons (by decide) hwithin).elim hkind hvalue
  rw [pieces, List.flatMap_congr hparts, ← List.map_eq_flatMap]

/-- A kind ends with the first colon. -/
lemma body_inj {other : String × String} (h : ':' ∉ segment.1.toList) (h' : ':' ∉ other.1.toList)
    (heq : body segment = body other) : segment = other := by
  have hcolon : ∀ {kind : List Char}, ':' ∉ kind → ¬ [':'] <:+: kind :=
    fun hkind hwithin => hkind (hwithin.subset List.mem_cons_self)
  obtain ⟨hkind, hvalue⟩ := Text.append_mark_cancel List.not_mem_nil (hcolon h) (hcolon h') heq
  exact Prod.ext (String.toList_inj.mp hkind) (String.toList_inj.mp hvalue)

/-- **Identifiers that can be read** are told apart by their texts. -/
theorem Legible.text_inj (ha : a.Legible) (hb : b.Legible) : a.text = b.text ↔ a = b := by
  rw [text_eq_text_iff, ha.pieces_eq, hb.pieces_eq]
  constructor
  · intro h
    have hlength : a.segments.length = b.segments.length := by simpa using congrArg List.length h
    refine congrArg mk (List.ext_getElem hlength fun i hi hj => ?_)
    have hbody : (a.segments.map body)[i]? = (b.segments.map body)[i]? := by rw [h]
    rw [List.getElem?_map, List.getElem?_map, List.getElem?_eq_getElem hi,
      List.getElem?_eq_getElem hj] at hbody
    exact body_inj (ha _ (List.getElem_mem hi)).1 (hb _ (List.getElem_mem hj)).1
      (Option.some.inj hbody)
  · rintro rfl
    rfl

/-! ## Segments in levels -/

/-- The kind of the segments at a level of a discovered tree. -/
def kindAt : Nat → String
  | 0 => "engine"
  | 1 => "class"
  | 2 => "scenario"
  | _ + 3 => "step"

/-- What stands in front of a value at a level, behind the value above it. -/
def mark (level : Nat) : List Char :=
  seam ++ (kindAt level).toList ++ [':']

/-- **The segments stand at the levels from one on**: their kinds are those of the levels, and no value
holds the mark of the level below it. -/
def Levelled : Nat → List (String × String) → Prop
  | _, [] => True
  | level, segment :: segments =>
    segment.1 = kindAt level ∧ ¬ mark (level + 1) <:+: segment.2.toList ∧
      Levelled (level + 1) segments

lemma mark_scenario : mark 2 = "]/[scenario:".toList := by
  decide

lemma mark_step : mark 3 = "]/[step:".toList := by
  decide

lemma exists_mark_eq (level : Nat) : ∃ rest, mark level = ']' :: rest ∧ ']' ∉ rest :=
  match level with
  | 0 => ⟨_, rfl, by decide⟩
  | 1 => ⟨_, rfl, by decide⟩
  | 2 => ⟨_, rfl, by decide⟩
  | _ + 3 => ⟨['/', '[', 's', 't', 'e', 'p', ':'], by simp [mark, kindAt, seam], by decide⟩

/-- A seam with what is woven at a level starts with the mark of the level. -/
lemma seam_append_woven {level : Nat} (h : segment.1 = kindAt level) :
    seam ++ woven (segment :: segments) =
      mark level ++ (segment.2.toList ++ (seam ++ woven segments)) := by
  simp [woven_cons, body, mark, h]

/-- What is woven behind a seam ends with a seam. -/
lemma exists_seam_append_woven_eq (segments : List (String × String)) :
    ∃ front, seam ++ woven segments = front ++ seam := by
  induction segments with
  | nil => exact ⟨[], List.append_nil seam⟩
  | cons segment segments ih =>
      obtain ⟨front, hfront⟩ := ih
      exact ⟨seam ++ (body segment ++ front), by
        rw [woven_cons, hfront, List.append_assoc, List.append_assoc]⟩

/-- A value without the mark of a level does not reach into the level. -/
lemma append_seam_ne_of_not_isInfix {level : Nat} {value value' : List Char}
    (hvalue : ¬ mark level <:+: value) (hkind : segment.1 = kindAt level) :
    value ++ seam ≠ value' ++ (seam ++ woven (segment :: segments)) := by
  intro h
  obtain ⟨front, hfront⟩ := exists_seam_append_woven_eq segments
  rw [seam_append_woven hkind, hfront, ← List.append_assoc, ← List.append_assoc,
    ← List.append_assoc] at h
  refine hvalue ⟨value', segment.2.toList ++ front, ?_⟩
  rw [List.append_cancel_right h, List.append_assoc _ segment.2.toList]

namespace Levelled

/-- The values at one level are the same if the rest of what is woven is. -/
lemma value_eq {level : Nat} {value value' : String} (hvalue : ¬ mark level <:+: value.toList)
    (hvalue' : ¬ mark level <:+: value'.toList) (h : Levelled level segments)
    (h' : Levelled level others)
    (heq : value.toList ++ (seam ++ woven segments) = value'.toList ++ (seam ++ woven others)) :
    value.toList = value'.toList := by
  cases segments with
  | nil =>
      cases others with
      | nil => exact List.append_cancel_right heq
      | cons other others => exact absurd heq (append_seam_ne_of_not_isInfix hvalue h'.1)
  | cons segment segments =>
      cases others with
      | nil => exact absurd heq.symm (append_seam_ne_of_not_isInfix hvalue' h.1)
      | cons other others =>
          obtain ⟨rest, hmark, hfresh⟩ := exists_mark_eq level
          rw [seam_append_woven h.1, seam_append_woven h'.1, hmark] at heq
          rw [hmark] at hvalue hvalue'
          exact (Text.append_mark_cancel hfresh hvalue hvalue' heq).1

/-- **Segments in levels** are told apart by what is woven from them. -/
theorem woven_inj {level : Nat} (h : Levelled level segments) (h' : Levelled level others)
    (heq : woven segments = woven others) : segments = others := by
  induction segments generalizing level others with
  | nil => exact (woven_eq_nil_iff.mp heq.symm).symm
  | cons segment segments ih =>
      cases others with
      | nil => exact woven_eq_nil_iff.mp heq
      | cons other others =>
          obtain ⟨hkind, hvalue, hbelow⟩ := h
          obtain ⟨hkind', hvalue', hbelow'⟩ := h'
          have hbehind : segment.2.toList ++ (seam ++ woven segments) =
              other.2.toList ++ (seam ++ woven others) := by
            rw [woven_cons, woven_cons, body, body, hkind, hkind', List.append_assoc,
              List.append_assoc] at heq
            exact (List.cons.inj (List.append_cancel_left heq)).2
          have hsame := hbelow.value_eq hvalue hvalue' hbelow' hbehind
          rw [hsame] at hbehind
          have hrest := ih hbelow hbelow' (List.append_cancel_left (List.append_cancel_left hbehind))
          rw [Prod.ext (hkind.trans hkind'.symm) (String.toList_inj.mp hsame), hrest]

end Levelled

/-! ## Discovered nodes -/

lemma not_mark_isInfix {value : List Char} (level : Nat) (h : ']' ∉ value) : ¬ mark level <:+: value :=
  fun hwithin => h (hwithin.subset (by simp [mark, seam]))

/-- A number holds no mark. -/
lemma not_mark_isInfix_toString (level k : Nat) : ¬ mark level <:+: (toString k).toList := by
  refine not_mark_isInfix level fun hbracket => ?_
  have hdigit : ']' ∈ Nat.toDigits 10 k := by simpa using hbracket
  exact absurd (Nat.isDigit_of_mem_toDigits (by decide) (by decide) hdigit) (by decide)

lemma levelled_engine : Levelled 0 (engine engineName).segments :=
  ⟨rfl, not_mark_isInfix 1 (by decide), trivial⟩

lemma levelled_class {name : String} (below : List (String × String))
    (h : ¬ "]/[scenario:".toList <:+: name.toList) (hbelow : Levelled 2 below) :
    Levelled 0 ((Discovery.classId name).segments ++ below) := by
  rw [← mark_scenario] at h
  exact ⟨rfl, not_mark_isInfix 1 (by decide), rfl, h, hbelow⟩

lemma levelled_steps (level : Nat) (path : List Nat) :
    Levelled (level + 3) (path.map fun i => ("step", toString i)) := by
  induction path generalizing level with
  | nil => trivial
  | cons i path ih => exact ⟨rfl, not_mark_isInfix_toString _ i, ih (level + 1)⟩

/-- **Scenarios of one name in different classes** have different texts. -/
lemma text_scenario_inj {name name' segment : String}
    (h : ((Discovery.classId name).append "scenario" segment).text =
      ((Discovery.classId name').append "scenario" segment).text) : name = name' := by
  have hwoven := text_eq_text_iff_woven.mp h
  simpa [Discovery.classId, append, engine, woven, body, String.toList_inj] using hwoven

end NodeId

/-- **No name seems to end early**: of the classes that could be read, no name holds the mark of a
scenario, and no name of a producer holds the mark of a step. -/
def Catalog.Legible (catalog : Catalog) : Prop :=
  ∀ c ∈ catalog.classes, c.loadError = none → ¬ "]/[scenario:".toList <:+: c.name.toList ∧
    ∀ p ∈ c.producers, ¬ "]/[step:".toList <:+: p.name.toList

instance (catalog : Catalog) : Decidable catalog.Legible :=
  inferInstanceAs (Decidable (∀ c ∈ catalog.classes, _ → _ ∧ _))

namespace Discovery

variable {catalog : Catalog} {stepAsTest : Bool} {request : DiscoveryRequest} {c : ClassSource}

/-- The scenarios of a class bear the names that its producers give. -/
lemma exists_named_of_mem_scenarios {n : Node} (h : n ∈ request.scenarios stepAsTest c) :
    ∃ p ∈ c.producers, ∃ named ∈ p.named, ∃ source,
      n = Node.ofScenario (classId c.name) named.1 source stepAsTest := by
  obtain ⟨p, hp, hn⟩ := List.mem_flatMap.mp h
  obtain ⟨named, hnamed, rfl⟩ := List.mem_map.mp hn
  exact ⟨p, (List.mem_filter.mp hp).1, named, (List.mem_filter.mp hnamed).1, _, rfl⟩

/-- A number behind the name of a producer makes no mark. -/
lemma not_mark_isInfix_named {p : Producer} {named : String × Scenario}
    (h : ¬ "]/[step:".toList <:+: p.name.toList) (hnamed : named ∈ p.named) :
    ¬ "]/[step:".toList <:+: named.1.toList := by
  obtain ⟨-, hname⟩ | ⟨ss, k, -, -, hname⟩ := Producer.mem_named.mp hnamed
  · rwa [hname]
  · rw [hname]
    intro hwithin
    have hlist : (p.name ++ "#" ++ toString (k + 1)).toList =
        p.name.toList ++ '#' :: (toString (k + 1)).toList := by simp
    rw [hlist] at hwithin
    obtain hwithin | hwithin := Text.infix_of_infix_append_cons (by decide) hwithin
    · exact h hwithin
    · rw [← NodeId.mark_step] at hwithin
      exact NodeId.not_mark_isInfix_toString 3 (k + 1) hwithin

/-- The identifiers of a discovered tree lie in levels. -/
lemma levelled_of_mem_discover (h : catalog.Legible) {n : Node}
    (hn : n ∈ (discover catalog stepAsTest request).root.descendants) :
    NodeId.Levelled 0 n.id.segments := by
  rw [root_discover, Node.descendants_eq, List.mem_cons] at hn
  obtain rfl | hn := hn
  · exact NodeId.levelled_engine
  obtain ⟨node, hnode, hn⟩ := List.mem_flatMap.mp hn
  obtain ⟨c, hc, rfl⟩ := List.mem_map.mp hnode
  obtain ⟨hmem, hload, -⟩ := DiscoveryRequest.mem_found.mp hc
  obtain ⟨hname, hproducers⟩ := h c hmem hload
  rw [Node.descendants_eq, List.mem_cons] at hn
  obtain rfl | hn := hn
  · exact NodeId.levelled_class [] hname trivial
  obtain ⟨scenario, hscenario, hn⟩ := List.mem_flatMap.mp hn
  obtain ⟨p, hp, named, hnamed, source, rfl⟩ := exists_named_of_mem_scenarios hscenario
  obtain ⟨path, hpath⟩ := Node.exists_at?_of_mem_descendants hn
  have hsegment := not_mark_isInfix_named (hproducers p hp) hnamed
  rw [← NodeId.mark_step] at hsegment
  rw [Node.id_of_at?_ofScenario hpath, NodeId.segments_below, NodeId.append, List.append_assoc]
  exact NodeId.levelled_class _ hname ⟨rfl, hsegment, NodeId.levelled_steps 0 path⟩

/-- **Nodes are told apart by their texts** in a discovered tree, if no name seems to end early. -/
theorem text_inj_discover (h : catalog.Legible) {m n : Node}
    (hm : m ∈ (discover catalog stepAsTest request).root.descendants)
    (hn : n ∈ (discover catalog stepAsTest request).root.descendants) :
    m.id.text = n.id.text ↔ m.id = n.id := by
  rw [NodeId.text_eq_text_iff_woven]
  constructor
  · intro heq
    have hsegments := (levelled_of_mem_discover h hm).woven_inj (levelled_of_mem_discover h hn) heq
    exact congrArg NodeId.mk hsegments
  · exact fun heq => congrArg (NodeId.woven ∘ NodeId.segments) heq

/-- **What a text says of an identifier.**  Two identifiers have one text exactly if they come to the
same pieces, so that those that can be read are told apart.  Scenarios of one name in different classes
are told apart whatever the names are, and so are all nodes of a discovered tree if no name of a class
seems to end before a scenario and no name of a producer before a step. -/
theorem identified_by_text :
    (∀ a b : NodeId, a.text = b.text ↔ a.pieces = b.pieces) ∧
    (∀ a b : NodeId, a.Legible → b.Legible → (a.text = b.text ↔ a = b)) ∧
    (∀ name name' segment, ((classId name).append "scenario" segment).text =
      ((classId name').append "scenario" segment).text → name = name') ∧
    ∀ (catalog : Catalog) (stepAsTest : Bool) (request : DiscoveryRequest), catalog.Legible →
      ∀ m ∈ (discover catalog stepAsTest request).root.descendants,
        ∀ n ∈ (discover catalog stepAsTest request).root.descendants,
          m.id.text = n.id.text ↔ m.id = n.id :=
  ⟨fun _ _ => NodeId.text_eq_text_iff, fun _ _ => NodeId.Legible.text_inj,
    fun _ _ _ => NodeId.text_scenario_inj, fun _ _ _ h _ hm _ hn => text_inj_discover h hm hn⟩

/-- The catalog of a class with two scenarios of one step each.  The producer of the second one has a
name. -/
def twoSingles (name : String) : Catalog :=
  .ofList [⟨"a", [⟨"p", none, .single (.ofStep "first" default)⟩,
    ⟨name, none, .single (.ofStep "second" default)⟩], none⟩]

/-- A seam in the name of a producer does no harm if no step seems to come behind it. -/
theorem identified_by_text_oddName :
    (twoSingles "p]/[q").Legible ∧
      ∀ m ∈ (discover (twoSingles "p]/[q") true .all).root.descendants,
        ∀ n ∈ (discover (twoSingles "p]/[q") true .all).root.descendants,
          m.id.text = n.id.text ↔ m.id = n.id := by
  have hlegible : (twoSingles "p]/[q").Legible := by decide +kernel
  obtain ⟨-, -, -, hnodes⟩ := identified_by_text
  exact ⟨hlegible, hnodes (twoSingles "p]/[q") true .all hlegible⟩

/-- **A text can stand for two nodes**: that of a scenario is that of the first step of another one, if
its producer is named so. -/
theorem not_identified_by_text :
    ¬ ∀ m ∈ (discover (twoSingles "p]/[step:0") true .all).root.descendants,
      ∀ n ∈ (discover (twoSingles "p]/[step:0") true .all).root.descendants,
        m.id ≠ n.id → m.id.text ≠ n.id.text := by
  decide +kernel

end Discovery

end ScenarioRunner
