import ScenarioRunner.Catalog.Basic
import ScenarioRunner.Proofs.Text.Cuts

/-!
# Packages

A class lies under a package if its name goes on behind the name of the package with a point.

* `ClassSource.inPackage_iff_segments`: names are compared by whole parts, those between their points.
* `ClassSource.inPackage_by_segments` adds what follows: a class lies under every package around one that
  it lies under, and under none with a part that differs from that of its name, such as the beginning of
  it.

Names may begin or end with a point, or have several in a row.  The parts around these are empty and
count like others.
-/

namespace ScenarioRunner

namespace ClassSource

variable {c : ClassSource} {package outer : String}

lemma inPackage_empty (c : ClassSource) : c.inPackage "" = true := rfl

/-- Under a package that has a name lie the classes whose names go on behind it with a point. -/
lemma inPackage_iff_append (hpackage : package ≠ "") :
    c.inPackage package = true ↔ ∃ rest, c.name.toList = package.toList ++ '.' :: rest := by
  simp only [← Text.dropStart?_eq_some_iff]
  rw [inPackage, Bool.or_eq_true, beq_iff_eq, or_iff_right hpackage]
  split
  · next rest hrest => exact iff_of_true rfl ⟨rest, hrest⟩
  · next hother => exact iff_of_false Bool.false_ne_true fun ⟨rest, hrest⟩ => hother rest hrest

/-- **Names are compared by whole parts**: a class lies under a package exactly if the parts of the
package are the first parts of its name, and not all of them. -/
theorem inPackage_iff_segments (hpackage : package ≠ "") :
    c.inPackage package = true ↔
      Text.segments '.' package <+: Text.segments '.' c.name ∧
        Text.segments '.' package ≠ Text.segments '.' c.name := by
  rw [inPackage_iff_append hpackage, Text.segments_prefix_iff]

/-- A class lies under every package around one that it lies under. -/
lemma inPackage_of_prefix (hpackage : package ≠ "")
    (houter : Text.segments '.' outer <+: Text.segments '.' package)
    (hin : c.inPackage package = true) : c.inPackage outer = true := by
  by_cases hempty : outer = ""
  · rw [hempty, inPackage_empty]
  · obtain ⟨hfront, hne⟩ := (inPackage_iff_segments hpackage).mp hin
    refine (inPackage_iff_segments hempty).mpr ⟨houter.trans hfront, fun heq => hne ?_⟩
    exact hfront.eq_of_length_le (heq ▸ houter.length_le)

/-- The parts of a package are those of the names of the classes under it. -/
lemma getElem?_segments_of_inPackage (hpackage : package ≠ "") (hin : c.inPackage package = true)
    {i : Nat} {part : String} (hpart : (Text.segments '.' package)[i]? = some part) :
    (Text.segments '.' c.name)[i]? = some part := by
  obtain ⟨hfront, -⟩ := (inPackage_iff_segments hpackage).mp hin
  obtain ⟨hlt, rfl⟩ := List.getElem?_eq_some_iff.mp hpart
  exact List.prefix_iff_getElem?.mp hfront i hlt

/-- **Membership in a package is by whole parts.**  A class lies under a package that has a name exactly
if the parts of the package between its points, empty ones included, are the first parts of the name of
the class and not all of them.  It then lies under every package whose parts come first among those of
the package.  It lies under no package with a part that differs from the one at the same place in its
name, be it only the beginning of it. -/
theorem inPackage_by_segments (c : ClassSource) {package : String} (hpackage : package ≠ "") :
    (c.inPackage package = true ↔
      Text.segments '.' package <+: Text.segments '.' c.name ∧
        Text.segments '.' package ≠ Text.segments '.' c.name) ∧
      (∀ outer, Text.segments '.' outer <+: Text.segments '.' package →
        c.inPackage package = true → c.inPackage outer = true) ∧
      ∀ (i : Nat) (part whole : String), (Text.segments '.' package)[i]? = some part →
        (Text.segments '.' c.name)[i]? = some whole → part ≠ whole →
          c.inPackage package = false := by
  refine ⟨inPackage_iff_segments hpackage, fun outer => inPackage_of_prefix hpackage, ?_⟩
  intro i part whole hpart hwhole hne
  rw [Bool.eq_false_iff]
  intro hin
  have hsame := getElem?_segments_of_inPackage hpackage hin hpart
  exact hne (Option.some.inj (hsame.symm.trans hwhole))

/-- Points at the ends of a name and in a row: the empty parts count, and half a part does not. -/
theorem inPackage_by_segments_emptyParts :
    let c : ClassSource := ⟨".web..search", [], none⟩
    ".web." ≠ "" ∧ c.inPackage ".web." = true ∧ c.inPackage ".web" = true ∧
      c.inPackage ".web.." = false ∧ c.inPackage ".we" = false := by
  intro c
  have hin : c.inPackage ".web." = true :=
    (inPackage_by_segments c (by decide)).1.mpr (by decide)
  refine ⟨by decide, hin, ?_, ?_, ?_⟩
  · exact (inPackage_by_segments c (by decide)).2.1 ".web" (by decide) hin
  · exact (inPackage_by_segments c (by decide)).2.2 3 "" "search" (by decide) (by decide) (by decide)
  · exact (inPackage_by_segments c (by decide)).2.2 1 "we" "web" (by decide) (by decide) (by decide)

end ClassSource

end ScenarioRunner
