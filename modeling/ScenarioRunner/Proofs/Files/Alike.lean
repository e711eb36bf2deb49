import Mathlib.Data.List.Perm.Basic
import ScenarioRunner.Proofs.Files.Trees

/-!
# Trees with the same files

The entries of a directory stand in some order, which says nothing about the files.

* `FileTree.Alike` holds of trees with the same names that lead to the same files;
  `FileTree.alike_of_perm` gives an example.
* `Disk.Alike.get` and `Disk.Alike.readText`: every path leads to the same file on such disks.
* `Disk.Alike.entries?`: a directory lists the same names on both, in any order.
-/

namespace ScenarioRunner

namespace FileTree

variable {t u : FileTree} {entries entries' : List (String × FileTree)} {names : List String}
  {name : String}

/-- The bytes of a file; a directory has none. -/
def content : FileTree → Option (List UInt8)
  | file bytes => some bytes
  | directory _ => none

/-- **Trees with the same files**: the same names lead to files with the same bytes, and the same names
lead to directories. -/
def Alike (t u : FileTree) : Prop :=
  ∀ names, (t.find? names).map content = (u.find? names).map content

namespace Alike

lemma isSome_find? (h : t.Alike u) (names : List String) :
    (t.find? names).isSome = (u.find? names).isSome := by
  rw [← Option.isSome_map (f := content), h names, Option.isSome_map]

end Alike

lemma mem_names_iff : name ∈ entries.map Prod.fst ↔ (entries.lookup name).isSome = true := by
  constructor
  · intro h
    obtain ⟨entry, hentry, rfl⟩ := List.mem_map.mp h
    refine Option.ne_none_iff_isSome.mp fun hnone => ?_
    exact bne_iff_ne.mp (List.lookup_eq_none_iff.mp hnone entry hentry) rfl
  · intro h
    obtain ⟨t, ht⟩ := Option.isSome_iff_exists.mp h
    exact List.mem_map.mpr ⟨(name, t), mem_of_lookup ht, rfl⟩

/-- The order of the entries of a directory is of no account. -/
lemma alike_of_perm (hperm : entries.Perm entries') (h : (entries.map Prod.fst).Nodup) :
    (directory entries).Alike (directory entries') := by
  have hlookup : ∀ name, entries.lookup name = entries'.lookup name := by
    intro name
    refine Option.ext fun t => ?_
    rw [lookup_eq_some_iff h, lookup_eq_some_iff ((hperm.map Prod.fst).nodup_iff.mp h), hperm.mem_iff]
  intro names
  cases names with
  | nil => rfl
  | cons name names => rw [find?, find?, child?, child?, hlookup]

/-- Directories whose entries have the same names and are alike. -/
lemma alike_singleton (name : String) (h : t.Alike u) :
    (directory [(name, t)]).Alike (directory [(name, u)]) := by
  intro names
  cases names with
  | nil => rfl
  | cons other names =>
      simp only [find?, child?, List.lookup_cons, List.lookup_nil]
      cases other == name with
      | true => exact h names
      | false => rfl

lemma find?_concat (t : FileTree) (names : List String) (name : String) :
    t.find? (names ++ [name]) = (t.find? names).bind fun u => u.child? name := by
  induction names generalizing t with
  | nil => simp [find?]
  | cons first names ih =>
      rw [List.cons_append, find?, find?, Option.bind_assoc]
      exact congrArg _ (funext ih)

/-- What names lead to is well-named too. -/
lemma wellNamed_of_find? (h : t.WellNamed) (hfind : t.find? names = some u) : u.WellNamed := by
  induction names generalizing t with
  | nil => exact Option.some.inj hfind ▸ h
  | cons name names ih =>
      rw [find?, Option.bind_eq_some_iff] at hfind
      obtain ⟨v, hchild, hfind⟩ := hfind
      cases t with
      | file bytes => cases hchild
      | directory entries =>
          exact ih ((wellNamedIn_iff.mp h).1 _ (mem_of_lookup hchild)).2 hfind

end FileTree

namespace Disk

variable {d d' : Disk} {path : String}

/-- Disks with the same files, which are seen from the same directory. -/
structure Alike (d d' : Disk) : Prop where
  tree : d.tree.Alike d'.tree
  here : d.here = d'.here
  wellNamed : d.tree.WellNamed
  wellNamed' : d'.tree.WellNamed

namespace Alike

variable (h : d.Alike d')

include h

lemma follow (names : List String) (segment : String) :
    d.follow names segment = d'.follow names segment := by
  have hnext := h.tree.isSome_find? (names ++ [segment])
  have hhere := h.tree names
  rw [FileTree.find?_concat, FileTree.find?_concat] at hnext
  rw [Disk.follow, Disk.follow]
  rcases hfind : d.tree.find? names with _ | (bytes | entries) <;>
    rcases hfind' : d'.tree.find? names with _ | (bytes' | entries') <;>
    simp only [hfind, hfind', Option.map_none, Option.map_some, FileTree.content, reduceCtorEq,
      Option.some.injEq, Option.bind_some] at hhere hnext ⊢
  simp only [hnext]

/-- **A path leads to the same place**. -/
lemma locate (path : String) : d.locate path = d'.locate path := by
  have hstart : d.start path = d'.start path := by rw [start, start, h.here]
  have hfollow : d.follow = d'.follow := funext fun names => funext (h.follow names)
  rw [Disk.locate, Disk.locate, hstart, hfollow]

lemma get (path : String) :
    (d.get path).map FileTree.content = (d'.get path).map FileTree.content := by
  rw [Disk.get, Disk.get, h.locate]
  cases d'.locate path with
  | error e => rfl
  | ok names =>
      have hhere := h.tree names
      simp only [bind, Except.bind]
      cases hfind : d.tree.find? names <;> cases hfind' : d'.tree.find? names <;>
        simp_all [Except.map]

end Alike

/-- What a file holds is told by the content of the path. -/
lemma read_eq (d : Disk) (path : String) :
    d.read path = ((d.get path).map FileTree.content).bind fun content =>
      match content with
      | some bytes => .ok bytes
      | none => .error .isDirectory := by
  rw [Disk.read]
  rcases d.get path with _ | (_ | _) <;> rfl

namespace Alike

variable (h : d.Alike d')

include h

/-- **A path is read alike**. -/
lemma readText (path : String) : d.readText path = d'.readText path := by
  rw [Disk.readText, Disk.readText, read_eq, read_eq, h.get]

/-- **A directory lists the same names**, in any order. -/
lemma entries? (path : String) :
    (((d.entries? path).getD []).map Prod.fst).Perm (((d'.entries? path).getD []).map Prod.fst) := by
  rw [Disk.entries?, Disk.entries?, Disk.get, Disk.get, h.locate]
  cases d'.locate path with
  | error e => exact .refl _
  | ok names =>
      have hhere := h.tree names
      simp only [bind, Except.bind]
      rcases hfind : d.tree.find? names with _ | (bytes | entries) <;>
        rcases hfind' : d'.tree.find? names with _ | (bytes' | entries') <;>
        simp only [hfind, hfind', Option.map_none, Option.map_some, FileTree.content, reduceCtorEq,
          Option.some.injEq] at hhere
      · exact .refl _
      · exact .refl _
      · have hnodup := (FileTree.wellNamedIn_iff.mp (FileTree.wellNamed_of_find? h.wellNamed hfind)).2
        have hnodup' :=
          (FileTree.wellNamedIn_iff.mp (FileTree.wellNamed_of_find? h.wellNamed' hfind')).2
        refine (List.perm_ext_iff_of_nodup hnodup hnodup').mpr fun name => ?_
        have hnext := h.tree.isSome_find? (names ++ [name])
        rw [FileTree.find?_concat, FileTree.find?_concat, hfind, hfind'] at hnext
        rw [FileTree.mem_names_iff, FileTree.mem_names_iff]
        exact Bool.eq_iff_iff.mp hnext

end Alike

end Disk

end ScenarioRunner
