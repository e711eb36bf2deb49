import ScenarioRunner.Proofs.Backend.Resolution
import ScenarioRunner.Proofs.Files.Alike

/-!
# The order in which a folder is listed

A directory may list its files in any order.  What depends on it, and what does not.

* `EnvironmentFolder.Alike` holds of folders with the same files, listed in any order.
* `EnvironmentFolder.sorted_eq_sorted_iff`: a sorted list is given by the order of the environments with
  one name.
* `EnvironmentFolder.Settles` holds of a name if the file that is called after it decides.
* `EnvironmentFolder.lookup_alike`: names and the default are the same for alike folders, and lists and
  look-ups differ only where different environments have one name.

Environments with one name are sorted as they are listed, and a search takes the first one.
-/

namespace ScenarioRunner.EnvironmentFolder

variable {folder f g : EnvironmentFolder} {name path : String} {es fs : List Environment}

/-! ## Sorted lists -/

/-- Sorted lists are equal if the environments with each name are the same in both. -/
lemma eq_of_filter_eq (hes : es.Pairwise NotBehind) (hfs : fs.Pairwise NotBehind)
    (h : ∀ name, es.filter (fun e => e.name == name) = fs.filter fun e => e.name == name) :
    es = fs := by
  induction es generalizing fs with
  | nil =>
      refine (List.eq_nil_iff_forall_not_mem.mpr fun f hf => ?_).symm
      have hmem : f ∈ fs.filter fun e => e.name == f.name := by simpa using hf
      exact absurd (h f.name ▸ hmem) List.not_mem_nil
  | cons e es ih =>
      have hmem : e ∈ fs := by
        have he : e ∈ (e :: es).filter fun d => d.name == e.name := by simp
        exact (List.mem_filter.mp (h e.name ▸ he)).1
      cases fs with
      | nil => cases hmem
      | cons f fs =>
          have hmem' : f ∈ e :: es := by
            have hf : f ∈ (f :: fs).filter fun d => d.name == f.name := by simp
            exact (List.mem_filter.mp ((h f.name).symm ▸ hf)).1
          obtain ⟨hfirst, hbehind⟩ := List.pairwise_cons.mp hes
          obtain ⟨hfirst', hbehind'⟩ := List.pairwise_cons.mp hfs
          have hle : ¬ e.name < f.name := by
            rcases List.mem_cons.mp hmem with rfl | hmem
            · exact String.lt_irrefl _
            · exact hfirst' e hmem
          have hle' : ¬ f.name < e.name := by
            rcases List.mem_cons.mp hmem' with rfl | hmem'
            · exact String.lt_irrefl _
            · exact hfirst f hmem'
          have hname : f.name = e.name :=
            String.le_antisymm (String.not_lt.mp hle) (String.not_lt.mp hle')
          -- both lists start with the first environment of this name
          have hhead := h e.name
          rw [List.filter_cons_of_pos (by simp), List.filter_cons_of_pos (by simp [hname])] at hhead
          obtain rfl := (List.cons.inj hhead).1
          refine congrArg _ (ih hbehind hbehind' fun name => ?_)
          have hrest := h name
          rw [List.filter_cons, List.filter_cons] at hrest
          split at hrest
          · exact (List.cons.inj hrest).2
          · exact hrest

/-- **A sorted list** is given by the order of the environments with one name. -/
theorem sorted_eq_sorted_iff :
    sorted es = sorted fs ↔
      ∀ name, es.filter (fun e => e.name == name) = fs.filter fun e => e.name == name := by
  constructor
  · intro h name
    rw [← filter_sorted, h, filter_sorted]
  · intro h
    refine eq_of_filter_eq (pairwise_sorted es) (pairwise_sorted fs) fun name => ?_
    rw [filter_sorted, h, filter_sorted]

/-- The names of a sorted list do not depend on the order before. -/
lemma names_sorted (h : es.Perm fs) :
    (sorted es).map Environment.name = (sorted fs).map Environment.name := by
  have hnames : ∀ es : List Environment,
      ((sorted es).map Environment.name).Pairwise fun a b => ¬ b < a := fun es =>
    List.pairwise_map.mpr (pairwise_sorted es)
  refine List.Perm.eq_of_pairwise (fun a b _ _ hab hba => ?_) (hnames es) (hnames fs)
    (((perm_sorted es).trans (h.trans (perm_sorted fs).symm)).map _)
  exact String.le_antisymm (String.not_lt.mp hab) (String.not_lt.mp hba)

/-! ## Folders with the same files -/

/-- There is a file if the content of the path has bytes. -/
lemma holdsFile_eq (folder : EnvironmentFolder) (path : String) :
    folder.holdsFile path =
      match (folder.disk.get path).map FileTree.content with
      | .ok (some _) => true
      | _ => false := by
  rw [holdsFile]
  rcases folder.disk.get path with _ | (_ | _) <;> rfl

/-- **Folders with the same files**, which may be listed in different orders. -/
structure Alike (f g : EnvironmentFolder) : Prop where
  root : f.root = g.root
  disk : f.disk.Alike g.disk

namespace Alike

variable (h : f.Alike g)

include h

lemma read (path : String) : f.read path = g.read path := by
  rw [EnvironmentFolder.read, EnvironmentFolder.read, h.disk.readText]

lemma hasOwn : f.HasOwn name path ↔ g.HasOwn name path := by
  rw [HasOwn, HasOwn, path?, path?, h.root, holdsFile_eq, holdsFile_eq, h.disk.get]

/-- **The same environments** are described. -/
lemma described : f.described.Perm g.described := by
  have hfiles : f.fileNames.Perm g.fileNames := by
    rw [fileNames, fileNames, h.root]
    exact (h.disk.entries? g.root).filter _
  rw [EnvironmentFolder.described, EnvironmentFolder.described, h.root]
  simp only [h.read]
  exact hfiles.filterMap _

end Alike

/-! ## Look-ups -/

/-- The file that is called after a name is there, and describes an environment with this name or
none at all. -/
def Settles (folder : EnvironmentFolder) (name : String) : Prop :=
  ∃ path, folder.HasOwn name path ∧ ∀ e, folder.read path = .ok e → e.name = name

lemma resolve_of_not_settles (h : ¬ folder.Settles name) :
    folder.resolve name = folder.search name := by
  by_cases hown : ∃ path, folder.HasOwn name path
  · obtain ⟨path, hown⟩ := hown
    rw [resolve_of_hasOwn hown]
    cases hread : folder.read path with
    | error error => exact absurd ⟨path, hown, fun e he => by cases hread.symm.trans he⟩ h
    | ok e =>
        refine if_neg fun hname => h ⟨path, hown, fun d hd => ?_⟩
        cases hread.symm.trans hd
        exact hname
  · exact resolve_of_not_hasOwn fun path h => hown ⟨path, h⟩

/-- A name that is settled leads to the same in alike folders. -/
lemma Alike.resolve_of_settles (h : f.Alike g) (hsettles : f.Settles name) :
    f.resolve name = g.resolve name := by
  obtain ⟨path, hown, hname⟩ := hsettles
  rw [resolve_of_hasOwn hown, resolve_of_hasOwn (h.hasOwn.mp hown), ← h.read]
  cases hread : f.read path with
  | error error => rfl
  | ok e => exact (if_pos (hname e hread)).trans (if_pos (hname e hread)).symm

lemma Alike.settles (h : f.Alike g) : f.Settles name ↔ g.Settles name := by
  simp only [Settles, h.hasOwn, h.read]

/-- Searches find the same exactly if they meet the same first. -/
lemma search_eq_search_iff :
    f.search name = g.search name ↔ (f.declaring name).head? = (g.declaring name).head? := by
  rw [search_eq, search_eq]
  cases (f.declaring name).head? <;> cases (g.declaring name).head? <;> simp

/-- A name leads to the same exactly if it is settled or its first environment is the same. -/
lemma Alike.resolve_eq_iff (h : f.Alike g) :
    f.resolve name = g.resolve name ↔
      f.Settles name ∨ (f.declaring name).head? = (g.declaring name).head? := by
  by_cases hsettles : f.Settles name
  · exact iff_of_true (h.resolve_of_settles hsettles) (Or.inl hsettles)
  · rw [resolve_of_not_settles hsettles, resolve_of_not_settles (h.settles.not.mp hsettles),
      search_eq_search_iff, or_iff_right hsettles]

/-- Where environments with one name are equal, their order is of no account. -/
lemma Alike.declaring_eq (h : f.Alike g)
    (hsame : ∀ e ∈ f.list, ∀ e' ∈ f.list, e.name = e'.name → e = e') (name : String) :
    f.declaring name = g.declaring name := by
  have hperm : (f.declaring name).Perm (g.declaring name) := h.described.filter _
  have hlist : ∀ e ∈ f.declaring name, e ∈ f.list := fun e he =>
    (perm_sorted _).mem_iff.mpr (List.mem_filter.mp he).1
  have hany : ∀ es : List Environment, es.Pairwise fun _ _ => True := fun _ =>
    List.pairwise_of_forall fun _ _ => trivial
  refine hperm.eq_of_pairwise (fun e e' he he' _ _ => ?_) (hany _) (hany _)
  have he' := hperm.mem_iff.mpr he'
  exact hsame e (hlist e he) e' (hlist e' he')
    ((name_of_mem_declaring he).trans (name_of_mem_declaring he').symm)

/-- **What the order of the files decides**: not the names, nor the default, nor which environments are
listed.  Both lists are sorted by name.  They are the same exactly if those with one name are met in
the same order, and a name leads to the same exactly if the file that is called after it settles it or
the first environment with this name is the same.  So nothing depends on the order if environments
with one name are equal. -/
theorem lookup_alike (h : f.Alike g) :
    f.list.Pairwise NotBehind ∧ g.list.Pairwise NotBehind ∧
    f.list.map Environment.name = g.list.map Environment.name ∧
    f.defaultName = g.defaultName ∧
    f.list.Perm g.list ∧
    (f.list = g.list ↔ ∀ name, f.declaring name = g.declaring name) ∧
    (∀ name, f.resolve name = g.resolve name ↔
      f.Settles name ∨ (f.declaring name).head? = (g.declaring name).head?) ∧
    ((∀ e ∈ f.list, ∀ e' ∈ f.list, e.name = e'.name → e = e') →
      f.list = g.list ∧ ∀ name, f.resolve name = g.resolve name) := by
  have hnames : f.list.map Environment.name = g.list.map Environment.name :=
    names_sorted h.described
  have hlist : f.list = g.list ↔ ∀ name, f.declaring name = g.declaring name :=
    sorted_eq_sorted_iff
  refine ⟨pairwise_sorted _, pairwise_sorted _, hnames, by rw [defaultName, defaultName, hnames],
    ?_, hlist, fun _ => h.resolve_eq_iff,
    fun hsame => ⟨hlist.mpr (h.declaring_eq hsame), fun name => h.resolve_eq_iff.mpr (Or.inr ?_)⟩⟩
  · exact (perm_sorted _).trans (h.described.trans (perm_sorted _).symm)
  · rw [h.declaring_eq hsame]

/-- Two files that describe an environment `X`. -/
def twoFiles : List (String × String) :=
  [("a.json", "\x7b\"name\": \"X\"\x7d"),
    ("b.json", "\x7b\"name\": \"X\", \"description\": \"other\"\x7d")]

/-- The two files may be listed in both orders. -/
lemma alike_twoFiles : (withFiles twoFiles).Alike (withFiles twoFiles.reverse) where
  root := rfl
  disk :=
    { tree := FileTree.alike_singleton "e" (FileTree.alike_of_perm (.swap ..) (by decide))
      here := rfl
      wellNamed := (by decide +kernel : FileTree.WellNamedIn _)
      wellNamed' := (by decide +kernel : FileTree.WellNamedIn _) }

/-- The names and the default do not depend on the order of the two files, but the list and the
look-up do. -/
theorem lookup_alike_twoFiles :
    (withFiles twoFiles).Alike (withFiles twoFiles.reverse) ∧
      (withFiles twoFiles).list.Pairwise NotBehind ∧
      (withFiles twoFiles.reverse).list.Pairwise NotBehind ∧
      (withFiles twoFiles).list.map Environment.name =
        (withFiles twoFiles.reverse).list.map Environment.name ∧
      (withFiles twoFiles).defaultName = (withFiles twoFiles.reverse).defaultName ∧
      (withFiles twoFiles).list.Perm (withFiles twoFiles.reverse).list := by
  obtain ⟨hsorted, hsorted', hnames, hdefault, hperm, -⟩ := lookup_alike alike_twoFiles
  exact ⟨alike_twoFiles, hsorted, hsorted', hnames, hdefault, hperm⟩

/-- **Lists and look-ups depend on the order**: the environments `X` of the two files stay in it, and
the first one is found. -/
theorem not_lookup_eq_twoFiles :
    (withFiles twoFiles).Alike (withFiles twoFiles.reverse) ∧
      (withFiles twoFiles).list ≠ (withFiles twoFiles.reverse).list ∧
      (withFiles twoFiles).resolve "X" ≠ (withFiles twoFiles.reverse).resolve "X" := by
  have h := alike_twoFiles
  have hfirst :
      ((withFiles twoFiles).declaring "X").map Environment.description = ["", "other"] := by
    rw [declaring, described_withFiles (by decide) (by decide)]
    decide +kernel
  have hsecond :
      ((withFiles twoFiles.reverse).declaring "X").map Environment.description = ["other", ""] := by
    rw [declaring, described_withFiles (by decide) (by decide)]
    decide +kernel
  refine ⟨h, fun hlist => ?_, fun hresolve => ?_⟩
  · have heq : (withFiles twoFiles).declaring "X" = (withFiles twoFiles.reverse).declaring "X" :=
      sorted_eq_sorted_iff.mp hlist "X"
    rw [heq, hsecond] at hfirst
    exact absurd hfirst (by decide)
  · rcases h.resolve_eq_iff.mp hresolve with ⟨path, hown, -⟩ | hhead
    · -- no file is called after the name
      exact absurd ((hasOwn_withFiles (by decide +kernel) (by decide)).mp hown).2 (by decide)
    · have hheads := congrArg (Option.map Environment.description) hhead
      rw [← List.head?_map, ← List.head?_map, hfirst, hsecond] at hheads
      exact absurd hheads (by decide)

end ScenarioRunner.EnvironmentFolder
