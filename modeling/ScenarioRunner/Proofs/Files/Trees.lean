import ScenarioRunner.Files.Tree
import ScenarioRunner.Proofs.Files.Paths

/-!
# The files of a tree

* `FileTree.WellNamed` holds of trees as there are on disks: names are names of files, and those in one
  directory are different.
* `FileTree.mem_filesIn`: the files that are listed are those that names lead to.
* `FileTree.pairwise_filesIn`: no two of them have the same path.
* `Disk.start_eq` and `Disk.get_eq`: which paths may be followed, and where they lead.

Names lead from entry to entry by looking them up, and a listing goes through all entries.
-/

namespace ScenarioRunner

namespace FileTree

open ScenarioRunner.Path (IsName below)

/-- What passes from the entries of a directory to the directory holds of all trees. -/
@[elab_as_elim]
theorem induct {motive : FileTree → Prop} (hfile : ∀ bytes, motive (file bytes))
    (hdirectory : ∀ entries, (∀ entry ∈ entries, motive entry.2) → motive (directory entries))
    (t : FileTree) : motive t :=
  @FileTree.rec motive (fun entries => ∀ entry ∈ entries, motive entry.2)
    (fun entry => motive entry.2) hfile hdirectory (List.forall_mem_nil _)
    (fun _ _ hentry hrest => List.forall_mem_cons.mpr ⟨hentry, hrest⟩) (fun _ _ h => h) t

mutual

/-- **The names in a tree** are names of files, and different in each directory. -/
def WellNamed : FileTree → Prop
  | file _ => True
  | directory entries => WellNamedIn entries

/-- The names of some entries of a directory, and those below them. -/
def WellNamedIn : List (String × FileTree) → Prop
  | [] => True
  | (name, t) :: rest =>
    (IsName name ∧ name ∉ rest.map Prod.fst) ∧ WellNamed t ∧ WellNamedIn rest

end

mutual

/-- Whether names are as they have to be can be found out. -/
def decidableWellNamed : (t : FileTree) → Decidable t.WellNamed
  | file _ => .isTrue trivial
  | directory entries => decidableWellNamedIn entries

/-- Whether the names of entries are as they have to be can be found out. -/
def decidableWellNamedIn : (entries : List (String × FileTree)) → Decidable (WellNamedIn entries)
  | [] => .isTrue trivial
  | (_, t) :: rest =>
    have := decidableWellNamed t
    have := decidableWellNamedIn rest
    inferInstanceAs (Decidable (_ ∧ _))

end

instance (entries : List (String × FileTree)) : Decidable (WellNamedIn entries) :=
  decidableWellNamedIn entries

variable {entries : List (String × FileTree)} {t u : FileTree} {name path : String}
  {names : List String} {bytes : List UInt8} {f g : String × List UInt8}

lemma wellNamedIn_iff : WellNamedIn entries ↔
    (∀ entry ∈ entries, IsName entry.1 ∧ entry.2.WellNamed) ∧ (entries.map Prod.fst).Nodup := by
  induction entries with
  | nil => simp [WellNamedIn]
  | cons entry rest ih =>
      obtain ⟨name, t⟩ := entry
      rw [WellNamedIn, ih, List.forall_mem_cons, List.map_cons, List.nodup_cons]
      tauto

lemma mem_of_lookup (h : entries.lookup name = some t) : (name, t) ∈ entries := by
  obtain ⟨front, behind, rfl, -⟩ := List.lookup_eq_some_iff.mp h
  exact List.mem_append_right _ List.mem_cons_self

/-- An entry is found under its name. -/
lemma lookup_eq_some_iff (h : (entries.map Prod.fst).Nodup) :
    entries.lookup name = some t ↔ (name, t) ∈ entries := by
  refine ⟨mem_of_lookup, fun hmem => ?_⟩
  obtain ⟨front, behind, rfl⟩ := List.append_of_mem hmem
  refine List.lookup_eq_some_iff.mpr ⟨front, behind, rfl, fun entry hentry => ?_⟩
  rw [List.map_append, List.nodup_append] at h
  have hne := h.2.2 entry.1 (List.mem_map_of_mem hentry) name (by simp)
  exact bne_iff_ne.mpr (Ne.symm hne)

/-! ## Names that lead to something -/

lemma find?_file : (file bytes).find? names = some u ↔ names = [] ∧ u = file bytes := by
  cases names with
  | nil => simp [find?, eq_comm]
  | cons name names => simp [find?, child?]

/-- Names that lead to a file below a directory start with the name of an entry. -/
lemma find?_directory (h : (entries.map Prod.fst).Nodup) :
    (directory entries).find? names = some (file bytes) ↔
      ∃ entry ∈ entries, ∃ rest, entry.2.find? rest = some (file bytes) ∧
        names = entry.1 :: rest := by
  cases names with
  | nil => simp [find?]
  | cons name names =>
      rw [find?, Option.bind_eq_some_iff]
      constructor
      · rintro ⟨t, hchild, hfind⟩
        exact ⟨(name, t), (lookup_eq_some_iff h).mp hchild, names, hfind, rfl⟩
      · rintro ⟨⟨n, t⟩, hmem, rest, hfind, heq⟩
        obtain ⟨rfl, rfl⟩ := List.cons.inj heq
        exact ⟨t, (lookup_eq_some_iff h).mpr hmem, hfind⟩

/-- Names that lead to something are names of files. -/
lemma isName_of_find? (h : t.WellNamed) (hfind : t.find? names = some u) :
    ∀ name ∈ names, IsName name := by
  induction names generalizing t with
  | nil => exact List.forall_mem_nil _
  | cons name names ih =>
      rw [find?, Option.bind_eq_some_iff] at hfind
      obtain ⟨v, hchild, hfind⟩ := hfind
      cases t with
      | file bytes => exact absurd hchild (by simp [child?])
      | directory entries =>
          obtain ⟨hname, hv⟩ := (wellNamedIn_iff.mp h).1 _ (mem_of_lookup hchild)
          exact List.forall_mem_cons.mpr ⟨hname, ih hv hfind⟩

/-! ## What is listed -/

lemma filesFrom_directory (path : String) (entries : List (String × FileTree)) :
    (directory entries).filesFrom path = filesIn path entries := by
  rw [filesFrom]

lemma filesIn_eq (path : String) (entries : List (String × FileTree)) :
    filesIn path entries =
      entries.flatMap fun entry => entry.2.filesFrom (Path.join path entry.1) := by
  induction entries with
  | nil => rw [filesIn, List.flatMap_nil]
  | cons entry rest ih => rw [filesIn, ih, List.flatMap_cons]

/-- **The files that are listed** are those that names lead to. -/
theorem mem_filesFrom (h : t.WellNamed) (path : String) :
    f ∈ t.filesFrom path ↔ ∃ names, t.find? names = some (.file f.2) ∧ f.1 = below path names := by
  induction t using induct generalizing path with
  | hfile bytes =>
      rw [filesFrom, List.mem_singleton]
      simp only [find?_file, file.injEq]
      constructor
      · rintro rfl
        exact ⟨[], ⟨rfl, rfl⟩, rfl⟩
      · rintro ⟨_, ⟨rfl, hbytes⟩, hpath⟩
        exact Prod.ext hpath hbytes
  | hdirectory entries ih =>
      obtain ⟨hentries, hnodup⟩ := wellNamedIn_iff.mp h
      simp only [filesFrom_directory, filesIn_eq, List.mem_flatMap, find?_directory hnodup]
      constructor
      · rintro ⟨entry, hentry, hmem⟩
        obtain ⟨rest, hfind, hpath⟩ := (ih entry hentry (hentries entry hentry).2 _).mp hmem
        exact ⟨entry.1 :: rest, ⟨entry, hentry, rest, hfind, rfl⟩, hpath⟩
      · rintro ⟨_, ⟨entry, hentry, rest, hfind, rfl⟩, hpath⟩
        exact ⟨entry, hentry, (ih entry hentry (hentries entry hentry).2 _).mpr ⟨rest, hfind, hpath⟩⟩

/-- The files that are listed of a directory are those that names lead to. -/
theorem mem_filesIn (h : WellNamedIn entries) (path : String) :
    f ∈ filesIn path entries ↔
      ∃ names, (directory entries).find? names = some (.file f.2) ∧ f.1 = below path names := by
  rw [← filesFrom_directory]
  exact mem_filesFrom (t := directory entries) h path

/-- **No two files** that are listed have the same path. -/
theorem pairwise_filesFrom (h : t.WellNamed) (path : String) :
    (t.filesFrom path).Pairwise fun f g => Path.components f.1 ≠ Path.components g.1 := by
  induction t using induct generalizing path with
  | hfile bytes => exact List.pairwise_singleton ..
  | hdirectory entries ih =>
      obtain ⟨hentries, hnodup⟩ := wellNamedIn_iff.mp h
      rw [filesFrom_directory, filesIn_eq, List.pairwise_flatMap]
      refine ⟨fun entry hentry => ih entry hentry (hentries entry hentry).2 _, ?_⟩
      refine (List.pairwise_map.mp hnodup).imp_of_mem fun {a b} ha hb hne f hf g hg heq => hne ?_
      -- both paths have the names of the entries at one place
      obtain ⟨hname, ht⟩ := hentries a ha
      obtain ⟨hname', ht'⟩ := hentries b hb
      obtain ⟨rest, hfind, hpath⟩ := (mem_filesFrom ht _).mp hf
      obtain ⟨rest', hfind', hpath'⟩ := (mem_filesFrom ht' _).mp hg
      rw [hpath, hpath'] at heq
      have hnames : a.1 :: rest = b.1 :: rest' :=
        Path.below_injective path
          (List.forall_mem_cons.mpr ⟨hname, isName_of_find? ht hfind⟩)
          (List.forall_mem_cons.mpr ⟨hname', isName_of_find? ht' hfind'⟩) heq
      exact (List.cons.inj hnames).1

lemma pairwise_filesIn (h : WellNamedIn entries) (path : String) :
    (filesIn path entries).Pairwise fun f g => Path.components f.1 ≠ Path.components g.1 := by
  rw [← filesFrom_directory]
  exact pairwise_filesFrom (t := directory entries) h path

end FileTree

/-- A path that is not empty, holds no NUL and is not too long may be followed. -/
lemma Disk.start_eq (d : Disk) {path : String} (hempty : path.isEmpty = false)
    (hnul : Char.ofNat 0 ∉ path.toList) (hsize : path.utf8ByteSize ≤ maxPath) :
    d.start path =
      .ok (if Path.isAbsolute path then [] else d.here, Text.segments '/' path) := by
  simp [start, hempty, hnul, hsize]

/-- What such a path leads to. -/
lemma Disk.get_eq (d : Disk) {path : String} (hempty : path.isEmpty = false)
    (hnul : Char.ofNat 0 ∉ path.toList) (hsize : path.utf8ByteSize ≤ maxPath) :
    d.get path =
      ((Text.segments '/' path).foldlM d.follow (if Path.isAbsolute path then [] else d.here)).bind
        fun names =>
          match d.tree.find? names with
          | some t => .ok t
          | none => .error .notFound := by
  rw [get, locate, d.start_eq hempty hnul hsize]
  rfl

end ScenarioRunner
