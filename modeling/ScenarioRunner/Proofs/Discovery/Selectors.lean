import Mathlib.Tactic.Common
import ScenarioRunner.Discovery.Selector

/-!
# Texts of producers

A producer of a class is asked for by `class#producer`, a text that is cut at the first `#`.

* `Text.splitOnce_eq_some_iff` says where a text is cut.
* `Selector.Names` holds of the texts that name a class and a producer.
* `Selector.parseMethod_and_text`: these texts are read, no others are, and what is read is written as
  it was.

The name of a producer may hold marks and start or end with one, the name of a class may not.
-/

namespace ScenarioRunner

/-- **A text is cut at its first separator**, if it holds one. -/
theorem Text.splitOnce_eq_some_iff {sep : Char} {s before behind : List Char} :
    splitOnce sep s = some (before, behind) ↔ s = before ++ sep :: behind ∧ sep ∉ before := by
  induction s generalizing before with
  | nil => simp [splitOnce]
  | cons c rest ih =>
      rw [splitOnce]
      split
      · next hsep =>
        subst hsep
        cases before with
        | nil => simp [eq_comm]
        | cons first before =>
            refine iff_of_false (by simp) ?_
            rintro ⟨heq, hmem⟩
            exact hmem ((List.cons.inj heq).1 ▸ List.mem_cons_self)
      · next hsep =>
        rw [Option.map_eq_some_iff]
        constructor
        · rintro ⟨⟨part, left⟩, hrest, heq⟩
          obtain ⟨rfl, rfl⟩ := Prod.mk.inj heq
          obtain ⟨rfl, hmem⟩ := ih.mp hrest
          exact ⟨rfl, List.not_mem_cons_of_ne_of_not_mem (Ne.symm hsep) hmem⟩
        · rintro ⟨heq, hmem⟩
          cases before with
          | nil => exact absurd (List.cons.inj heq).1 hsep
          | cons first before =>
              obtain ⟨rfl, hrest⟩ := List.cons.inj heq
              exact ⟨(before, behind), ih.mpr ⟨hrest, List.not_mem_of_not_mem_cons hmem⟩, rfl⟩

namespace Selector

variable {s className producer : String} {selector : Selector}

/-- **A text that names a producer of a class**: neither name is empty, and the mark between them is
the first one. -/
structure Names (s className producer : String) : Prop where
  text : s = className ++ "#" ++ producer
  class_ne_empty : className ≠ ""
  no_mark : '#' ∉ className.toList
  producer_ne_empty : producer ≠ ""

lemma splitOnce_toList_iff :
    Text.splitOnce '#' s.toList = some (className.toList, producer.toList) ↔
      s = className ++ "#" ++ producer ∧ '#' ∉ className.toList := by
  have htext : (className ++ "#" ++ producer).toList =
      className.toList ++ '#' :: producer.toList := by
    rw [String.toList_append, String.toList_append, List.append_assoc]
    rfl
  rw [Text.splitOnce_eq_some_iff, ← htext, String.toList_inj]

/-- What is read is a text that names a producer. -/
lemma parseMethod?_eq_some_iff :
    parseMethod? s = some selector ↔
      ∃ className producer, Names s className producer ∧ selector = .method className producer := by
  constructor
  · intro hparse
    rw [parseMethod?] at hparse
    split at hparse
    · next c m hsplit =>
      split at hparse
      · cases hparse
      · next hempty =>
        obtain ⟨className, rfl⟩ : ∃ name : String, name.toList = c := ⟨_, String.toList_ofList⟩
        obtain ⟨producer, rfl⟩ : ∃ name : String, name.toList = m := ⟨_, String.toList_ofList⟩
        obtain ⟨htext, hmark⟩ := splitOnce_toList_iff.mp hsplit
        rw [String.ofList_toList, String.ofList_toList, Option.some.injEq] at hparse
        simp only [Bool.or_eq_true, List.isEmpty_iff, String.toList_eq_nil_iff, not_or] at hempty
        exact ⟨className, producer, ⟨htext, hempty.1, hmark, hempty.2⟩, hparse.symm⟩
    · cases hparse
  · rintro ⟨className, producer, hnames, rfl⟩
    have hempty {name : String} (hname : name ≠ "") : name.toList.isEmpty = false :=
      List.isEmpty_eq_false_iff.mpr fun heq => hname (String.toList_eq_nil_iff.mp heq)
    rw [parseMethod?, splitOnce_toList_iff.mpr ⟨hnames.text, hnames.no_mark⟩]
    simp [hempty hnames.class_ne_empty, hempty hnames.producer_ne_empty, String.ofList_toList]

lemma parseMethod_eq_ok_iff :
    parseMethod s = .ok selector ↔
      ∃ className producer, Names s className producer ∧ selector = .method className producer := by
  rw [← parseMethod?_eq_some_iff, parseMethod]
  cases parseMethod? s <;> simp

lemma parseMethod_eq_error_iff {e : Error} :
    parseMethod s = .error e ↔ (∀ className producer, ¬ Names s className producer) ∧
      e = .config ("Invalid method selector '" ++ s ++ "', expected <class>#<method>") := by
  have hnone : parseMethod? s = none ↔ ∀ className producer, ¬ Names s className producer := by
    rw [Option.eq_none_iff_forall_ne_some]
    constructor
    · exact fun hne className producer hnames =>
        hne _ (parseMethod?_eq_some_iff.mpr ⟨className, producer, hnames, rfl⟩)
    · intro hother selector hparse
      obtain ⟨className, producer, hnames, -⟩ := parseMethod?_eq_some_iff.mp hparse
      exact hother className producer hnames
  rw [← hnone, parseMethod]
  cases parseMethod? s <;> simp [eq_comm]

/-- The selector that stands for a text is written as this text. -/
lemma Names.text_method (h : Names s className producer) :
    (method className producer).text = "method:" ++ s := by
  rw [Selector.text, h.text, String.append_assoc, String.append_assoc, String.append_assoc]

/-- **Producers are read as they are written.**  A text is read exactly if it names a producer of a
class, and the selector then bears these two names and is written as the text behind its kind.  Of any
other text it is said that it is no such pair.  A class and a producer that can be told apart are read
from the text that joins them. -/
theorem parseMethod_and_text (s : String) :
    (∀ selector, parseMethod s = .ok selector ↔
        ∃ className producer, Names s className producer ∧
          selector = .method className producer) ∧
      (∀ selector, parseMethod s = .ok selector → selector.text = "method:" ++ s) ∧
      (∀ e, parseMethod s = .error e ↔ (∀ className producer, ¬ Names s className producer) ∧
        e = .config ("Invalid method selector '" ++ s ++ "', expected <class>#<method>")) ∧
      ∀ className producer, className ≠ "" → '#' ∉ className.toList → producer ≠ "" →
        parseMethod (className ++ "#" ++ producer) = .ok (.method className producer) := by
  refine ⟨fun selector => parseMethod_eq_ok_iff, fun selector hparse => ?_,
    fun e => parseMethod_eq_error_iff, fun className producer hclass hmark hproducer => ?_⟩
  · obtain ⟨className, producer, hnames, rfl⟩ := parseMethod_eq_ok_iff.mp hparse
    exact hnames.text_method
  · exact parseMethod_eq_ok_iff.mpr ⟨className, producer, ⟨rfl, hclass, hmark, hproducer⟩, rfl⟩

/-- Further marks belong to the producer. -/
example : parseMethod "a.B##c#" = .ok (.method "a.B" "#c#") := by decide

end Selector

end ScenarioRunner
