import Mathlib.Data.List.Perm.Basic
import ScenarioRunner.Backend.EnvironmentFolder
import ScenarioRunner.Proofs.Files.Trees

/-!
# Environments by their names

Which environment of a folder a name leads to.

* `EnvironmentFolder.described` lists the environments that the files of a folder describe, in the
  order of the files, and `EnvironmentFolder.declaring` those with one name.
* `EnvironmentFolder.filter_sorted`: sorting leaves those with one name in their order.
* `EnvironmentFolder.search_eq`: a search finds the first environment with a name.
* `EnvironmentFolder.resolve_listed`: every name that is listed leads to an environment of this name,
  unless the file that is called after it describes none.
* `EnvironmentFolder.described_withFiles`: what a folder with given files describes can be computed.

The list leaves out what describes no environment, and the file that is called after a name is asked
before the list.
-/

namespace ScenarioRunner.EnvironmentFolder

variable {folder : EnvironmentFolder} {name path : String} {e f : Environment}
  {es : List Environment} {error : Error} {files : List (String × String)} {text : String}

/-! ## Sorting -/

/-- One environment does not come behind another one. -/
def NotBehind (e f : Environment) : Prop :=
  ¬ f.name < e.name

lemma perm_insert (e : Environment) (es : List Environment) : (insert e es).Perm (e :: es) := by
  induction es with
  | nil => exact .refl _
  | cons f es ih =>
      rw [insert]
      split
      · exact (ih.cons f).trans (.swap e f es)
      · exact .refl _

lemma perm_sorted (es : List Environment) : (sorted es).Perm es := by
  induction es with
  | nil => exact .refl _
  | cons e es ih => exact (perm_insert e (sorted es)).trans (ih.cons e)

lemma pairwise_insert (e : Environment) (h : es.Pairwise NotBehind) :
    (insert e es).Pairwise NotBehind := by
  induction es with
  | nil => exact List.pairwise_singleton ..
  | cons f es ih =>
      obtain ⟨hf, hes⟩ := List.pairwise_cons.mp h
      rw [insert]
      split
      · next hlt =>
        refine List.pairwise_cons.mpr ⟨fun g hg => ?_, ih hes⟩
        rcases List.mem_cons.mp ((perm_insert e es).mem_iff.mp hg) with rfl | hg
        · exact fun hlt' => String.lt_irrefl _ (String.lt_trans hlt hlt')
        · exact hf g hg
      · next hle =>
        refine List.pairwise_cons.mpr ⟨fun g hg => ?_, h⟩
        rcases List.mem_cons.mp hg with rfl | hg
        · exact hle
        · exact String.not_lt.mpr
            (String.le_trans (String.not_lt.mp hle) (String.not_lt.mp (hf g hg)))

lemma pairwise_sorted (es : List Environment) : (sorted es).Pairwise NotBehind := by
  induction es with
  | nil => exact .nil
  | cons e es ih => exact pairwise_insert e ih

lemma filter_insert (e : Environment) (es : List Environment) (name : String) :
    (insert e es).filter (fun f => f.name == name) = (e :: es).filter fun f => f.name == name := by
  induction es with
  | nil => rfl
  | cons f es ih =>
      rw [insert]
      split
      · next hlt =>
        have hne : f.name ≠ e.name := fun heq => String.lt_irrefl _ (heq ▸ hlt)
        rw [List.filter_cons, ih]
        -- the two change places, so at most one of them may stay
        by_cases hf : f.name = name
        · have he : e.name ≠ name := fun he => hne (hf.trans he.symm)
          simp [hf, he]
        · simp [List.filter_cons, hf]
      · rfl

/-- **Sorting is stable**: environments with one name stay in their order. -/
theorem filter_sorted (es : List Environment) (name : String) :
    (sorted es).filter (fun f => f.name == name) = es.filter fun f => f.name == name := by
  induction es with
  | nil => rfl
  | cons e es ih =>
      show (insert e (sorted es)).filter _ = _
      rw [filter_insert, List.filter_cons, List.filter_cons, ih]

/-! ## What a folder describes -/

/-- The environments that the files of a folder describe, in the order of the files. -/
def described (folder : EnvironmentFolder) : List Environment :=
  folder.fileNames.filterMap fun name => (folder.read (Path.join folder.root name)).toOption

/-- The environments with a name, in the order of the files that describe them. -/
def declaring (folder : EnvironmentFolder) (name : String) : List Environment :=
  folder.described.filter fun e => e.name == name

lemma fileNames_of_get {entries : List (String × FileTree)}
    (h : folder.disk.get folder.root = .ok (.directory entries)) :
    folder.fileNames =
      (entries.map Prod.fst).filter fun name => Path.extension? name == some "json" := by
  rw [fileNames, Disk.entries?, h]
  rfl

lemma read_of_get {bytes : List UInt8} (h : folder.disk.get path = .ok (.file bytes)) :
    folder.read path = ofContent path (Disk.textOf bytes) := by
  rw [read, Disk.readText, Disk.read, h]
  rfl

lemma list_eq (folder : EnvironmentFolder) : folder.list = sorted folder.described := rfl

/-- **A search** finds the first environment with a name. -/
lemma search_eq (folder : EnvironmentFolder) (name : String) :
    folder.search name =
      match (folder.declaring name).head? with
      | some e => .ok e
      | none => .error (.environment (.notFound name)) := by
  have hfind : folder.list.find? (fun e => e.name == name) = (folder.declaring name).head? := by
    rw [declaring, ← filter_sorted, ← list_eq, List.head?_filter]
  rw [← hfind]
  rfl

lemma name_of_mem_declaring (h : e ∈ folder.declaring name) : e.name = name :=
  beq_iff_eq.mp (List.mem_filter.mp h).2

lemma mem_names_iff : name ∈ folder.list.map Environment.name ↔ folder.declaring name ≠ [] := by
  simp [declaring, list_eq, (perm_sorted _).mem_iff]

lemma search_eq_ok (h : folder.search name = .ok e) : e.name = name := by
  rw [search_eq] at h
  split at h
  · next f hf =>
    cases h
    exact name_of_mem_declaring (List.mem_of_mem_head? hf)
  · cases h

/-- A name that is listed is found. -/
lemma exists_search (h : name ∈ folder.list.map Environment.name) :
    ∃ e, folder.search name = .ok e := by
  rw [mem_names_iff, ← List.isSome_head?, Option.isSome_iff_exists] at h
  obtain ⟨e, he⟩ := h
  exact ⟨e, by rw [search_eq, he]⟩

lemma defaultName_eq_ok (h : folder.defaultName = .ok name) :
    folder.list.map Environment.name = [name] := by
  rw [defaultName] at h
  split at h
  · cases h
  · cases h
    assumption
  · cases h

/-! ## The file that is called after a name -/

/-- The file that is called after a name is there. -/
def HasOwn (folder : EnvironmentFolder) (name path : String) : Prop :=
  folder.path? name = some path ∧ folder.holdsFile path = true

/-- **A name is shadowed** if the file that is called after it describes no environment. -/
def Shadowed (folder : EnvironmentFolder) (name : String) (error : Error) : Prop :=
  ∃ path, folder.HasOwn name path ∧ folder.read path = .error error

lemma own_eq_some_iff :
    (folder.path? name).filter folder.holdsFile = some path ↔ folder.HasOwn name path := by
  rw [Option.filter_eq_some_iff, HasOwn]

lemma resolve_of_hasOwn (h : folder.HasOwn name path) :
    folder.resolve name =
      match folder.read path with
      | .error e => .error e
      | .ok e => if e.name = name then .ok e else folder.search name := by
  have hown := own_eq_some_iff.mpr h
  cases hread : folder.read path with
  | error e => simp only [resolve, hown, hread]
  | ok e => simp only [resolve, hown, hread]

lemma resolve_of_not_hasOwn (h : ∀ path, ¬ folder.HasOwn name path) :
    folder.resolve name = folder.search name := by
  have hnone : (folder.path? name).filter folder.holdsFile = none :=
    Option.eq_none_iff_forall_ne_some.mpr fun path hpath => h path (own_eq_some_iff.mp hpath)
  rw [resolve, hnone]

lemma resolve_of_shadowed (h : folder.Shadowed name error) :
    folder.resolve name = .error error := by
  obtain ⟨path, hown, hread⟩ := h
  rw [resolve_of_hasOwn hown, hread]

/-- A name that is listed and not shadowed leads to an environment with this name. -/
lemma exists_resolve (h : name ∈ folder.list.map Environment.name)
    (hshadowed : ∀ error, ¬ folder.Shadowed name error) :
    ∃ e, folder.resolve name = .ok e ∧ e.name = name := by
  obtain ⟨e, he⟩ := exists_search h
  by_cases hown : ∃ path, folder.HasOwn name path
  · obtain ⟨path, hown⟩ := hown
    rw [resolve_of_hasOwn hown]
    cases hread : folder.read path with
    | error error => exact absurd ⟨path, hown, hread⟩ (hshadowed error)
    | ok f =>
        by_cases hname : f.name = name
        · exact ⟨f, if_pos hname, hname⟩
        · exact ⟨e, (if_neg hname).trans he, search_eq_ok he⟩
  · rw [resolve_of_not_hasOwn fun path h => hown ⟨path, h⟩]
    exact ⟨e, he, search_eq_ok he⟩

/-- **A name that is listed** leads to an environment with this name exactly if it is not shadowed; the
default name is the only one that is listed.  A shadowed name leads to the error of its file. -/
theorem resolve_listed (folder : EnvironmentFolder) :
    (∀ name ∈ folder.list.map Environment.name,
      ((∃ e, folder.resolve name = .ok e ∧ e.name = name) ↔
        ∀ error, ¬ folder.Shadowed name error)) ∧
    (∀ name error, folder.Shadowed name error → folder.resolve name = .error error) ∧
    ∀ name, folder.defaultName = .ok name → folder.list.map Environment.name = [name] := by
  refine ⟨fun name hname => ⟨?_, exists_resolve hname⟩, fun name error => resolve_of_shadowed,
    fun name => defaultName_eq_ok⟩
  rintro ⟨e, he, -⟩ error hshadowed
  rw [resolve_of_shadowed hshadowed] at he
  cases he

/-! ## Folders with given files -/

/-- The folder `e` with some files. -/
def withFiles (files : List (String × String)) : EnvironmentFolder :=
  ⟨⟨.directory [("e", .directory (files.map fun (name, text) =>
    (name, .file (Text.Utf8.encode text))))], []⟩, "e"⟩

/-- A name that a directory can hold: that of a file, without NUL and not too long. -/
def Fits (name : String) : Prop :=
  Path.IsName name ∧ Char.ofNat 0 ∉ name.toList ∧ name.utf8ByteSize ≤ Disk.maxName

instance (name : String) : Decidable (Fits name) :=
  inferInstanceAs (Decidable (_ ∧ _))

/-- The files as the entries of their directory. -/
def entriesOf (files : List (String × String)) : List (String × FileTree) :=
  files.map fun f => (f.1, .file (Text.Utf8.encode f.2))

lemma names_entriesOf (files : List (String × String)) :
    (entriesOf files).map Prod.fst = files.map Prod.fst := by
  rw [entriesOf, List.map_map]
  rfl

lemma find?_withFiles (files : List (String × String)) :
    (withFiles files).disk.tree.find? ["e"] = some (.directory (entriesOf files)) := rfl

/-- What stands under a name in the folder. -/
lemma get_withFiles (h : Fits name) :
    (withFiles files).disk.get (Path.join "e" name) =
      match (entriesOf files).lookup name with
      | some t => .ok t
      | none => .error .notFound := by
  obtain ⟨hname, hnul, hsize⟩ := h
  have hjoin : Path.join "e" name = "e/" ++ name := by
    rw [Path.join, Path.isAbsolute_of_isName hname]
    rfl
  have hsegments : Text.segments '/' ("e/" ++ name) = ["e", name] := by
    rw [Text.segments_append (show ("e/" ++ name).toList = "e".toList ++ '/' :: name.toList by simp),
      Text.segments_of_not_mem hname.2.2.2]
    rfl
  have hempty : ("e/" ++ name).isEmpty = false := by simp
  have hnul' : Char.ofNat 0 ∉ ("e/" ++ name).toList := by simpa using hnul
  have hsize' : ("e/" ++ name).utf8ByteSize ≤ Disk.maxPath := by
    rw [String.utf8ByteSize_append]
    exact (Nat.add_le_add_left hsize _).trans (by decide)
  have hhere : (withFiles files).disk.here = [] := rfl
  have hfollow : ["e", name].foldlM (withFiles files).disk.follow [] =
      if ((entriesOf files).lookup name).isSome then .ok ["e", name] else .error .notFound := by
    show ((withFiles files).disk.follow ["e"] name >>= pure) = _
    obtain ⟨hne, hdot, hup, -⟩ := hname
    simp only [bind_pure, Disk.follow, find?_withFiles, FileTree.child?, hne, hdot, hup,
      Nat.not_lt.mpr hsize, or_self, if_false]
    rfl
  have hfind : (withFiles files).disk.tree.find? ["e", name] = (entriesOf files).lookup name :=
    Option.bind_fun_some _
  rw [hjoin, Disk.get_eq _ hempty hnul' hsize', hsegments, hhere, ite_self, hfollow]
  cases hlookup : (entriesOf files).lookup name with
  | none => rfl
  | some t => simp only [Option.isSome_some, if_true, Except.bind, hfind, hlookup]

lemma fileNames_withFiles (files : List (String × String)) :
    (withFiles files).fileNames =
      (files.map Prod.fst).filter fun name => Path.extension? name == some "json" := by
  have hget : (withFiles files).disk.get "e" = .ok (.directory (entriesOf files)) := by
    rw [Disk.get_eq _ (by decide) (by decide) (by decide)]
    rfl
  rw [fileNames_of_get hget, names_entriesOf]

/-- A file of the folder is read from its text. -/
lemma read_withFiles (hname : Fits name) (hnames : (files.map Prod.fst).Nodup)
    (hmem : (name, text) ∈ files) :
    (withFiles files).read (Path.join "e" name) =
      ofContent (Path.join "e" name) (Disk.textOf (Text.Utf8.encode text)) := by
  rw [← names_entriesOf] at hnames
  have hlookup : (entriesOf files).lookup name = some (.file (Text.Utf8.encode text)) :=
    (FileTree.lookup_eq_some_iff hnames).mpr (List.mem_map.mpr ⟨(name, text), hmem, rfl⟩)
  exact read_of_get ((get_withFiles hname).trans (by rw [hlookup]))

/-- **What the files describe**, in their order. -/
lemma described_withFiles (hfits : ∀ f ∈ files, Fits f.1) (hnames : (files.map Prod.fst).Nodup) :
    (withFiles files).described =
      (files.filter fun f => Path.extension? f.1 == some "json").filterMap fun f =>
        (ofContent (Path.join "e" f.1) (Disk.textOf (Text.Utf8.encode f.2))).toOption := by
  rw [described, fileNames_withFiles, List.filter_map, List.filterMap_map]
  refine List.filterMap_congr fun f hf => ?_
  have hf := (List.mem_filter.mp hf).1
  exact congrArg Except.toOption (read_withFiles (hfits f hf) hnames hf)

lemma holdsFile_withFiles (h : Fits name) :
    (withFiles files).holdsFile (Path.join "e" name) = true ↔ name ∈ files.map Prod.fst := by
  rw [holdsFile, get_withFiles h, ← names_entriesOf]
  cases hlookup : (entriesOf files).lookup name with
  | none =>
      refine iff_of_false Bool.false_ne_true fun hmem => ?_
      obtain ⟨entry, hentry, rfl⟩ := List.mem_map.mp hmem
      exact bne_iff_ne.mp (List.lookup_eq_none_iff.mp hlookup entry hentry) rfl
  | some t =>
      have hmem := FileTree.mem_of_lookup hlookup
      obtain ⟨f, -, heq⟩ := List.mem_map.mp hmem
      obtain ⟨-, rfl⟩ := Prod.mk.inj heq
      exact iff_of_true rfl (List.mem_map_of_mem hmem)

/-- The file that is called after a name is there if it is one of the files. -/
lemma hasOwn_withFiles (hname : FileName.sanitize name = name ∧ name ≠ "")
    (h : Fits (name ++ ".json")) :
    (withFiles files).HasOwn name path ↔
      path = Path.join "e" (name ++ ".json") ∧ name ++ ".json" ∈ files.map Prod.fst := by
  have hpath : (withFiles files).path? name = some (Path.join "e" (name ++ ".json")) :=
    if_pos hname
  rw [HasOwn, hpath, Option.some_inj, eq_comm]
  refine and_congr_right ?_
  rintro rfl
  exact holdsFile_withFiles h

/-- A name is shadowed if the file of the folder that is called after it is broken. -/
lemma exists_shadowed_withFiles (hname : FileName.sanitize name = name ∧ name ≠ "")
    (h : Fits (name ++ ".json")) (hnames : (files.map Prod.fst).Nodup)
    (hmem : (name ++ ".json", text) ∈ files)
    (hbroken : (ofContent (Path.join "e" (name ++ ".json"))
      (Disk.textOf (Text.Utf8.encode text))).toOption.isNone = true) :
    ∃ error, (withFiles files).Shadowed name error := by
  have hown : (withFiles files).HasOwn name (Path.join "e" (name ++ ".json")) :=
    (hasOwn_withFiles hname h).mpr ⟨rfl, List.mem_map_of_mem hmem⟩
  rw [← read_withFiles h hnames hmem] at hbroken
  cases hread : (withFiles files).read (Path.join "e" (name ++ ".json")) with
  | error error => exact ⟨error, _, hown, hread⟩
  | ok e =>
      rw [hread] at hbroken
      cases hbroken

/-- A folder with a broken file and one that describes `DEV`. -/
def brokenSibling : EnvironmentFolder :=
  withFiles [("OLD.json", "\x7b"), ("dev.json", "\x7b\"name\": \"DEV\"\x7d")]

/-- A broken file hides no name but its own. -/
theorem resolve_listed_brokenSibling :
    "DEV" ∈ brokenSibling.list.map Environment.name ∧ brokenSibling.defaultName = .ok "DEV" ∧
      (∃ e, brokenSibling.resolve "DEV" = .ok e ∧ e.name = "DEV") ∧
      ∃ error, brokenSibling.Shadowed "OLD" error ∧ brokenSibling.resolve "OLD" = .error error := by
  have hnames : brokenSibling.list.map Environment.name = ["DEV"] := by
    rw [list_eq, brokenSibling, described_withFiles (by decide) (by decide)]
    decide +kernel
  have hlisted : "DEV" ∈ brokenSibling.list.map Environment.name := by
    rw [hnames]
    exact List.mem_singleton_self _
  have hsound : ∀ error, ¬ brokenSibling.Shadowed "DEV" error := by
    rintro error ⟨path, hown, -⟩
    exact absurd ((hasOwn_withFiles (by decide +kernel) (by decide)).mp hown).2 (by decide)
  obtain ⟨error, hshadowed⟩ : ∃ error, brokenSibling.Shadowed "OLD" error :=
    exists_shadowed_withFiles (by decide +kernel) (by decide) (by decide)
      (show ("OLD" ++ ".json", "\x7b") ∈ _ by decide) (by decide +kernel)
  exact ⟨hlisted, by rw [defaultName, hnames],
    ((resolve_listed brokenSibling).1 "DEV" hlisted).mpr hsound, error, hshadowed,
    (resolve_listed brokenSibling).2.1 "OLD" error hshadowed⟩

/-- A folder whose only environment is called after a broken file. -/
def brokenNamesake : EnvironmentFolder :=
  withFiles [("A.json", "\x7b"), ("b.json", "\x7b\"name\": \"A\"\x7d")]

/-- **The only environment can be out of reach**: it is the default, and its name leads to the error of
the broken file. -/
theorem not_resolve_brokenNamesake :
    brokenNamesake.list.map Environment.name = ["A"] ∧ brokenNamesake.defaultName = .ok "A" ∧
      ¬ ∃ e, brokenNamesake.resolve "A" = .ok e ∧ e.name = "A" := by
  have hnames : brokenNamesake.list.map Environment.name = ["A"] := by
    rw [list_eq, brokenNamesake, described_withFiles (by decide) (by decide)]
    decide +kernel
  obtain ⟨error, hshadowed⟩ : ∃ error, brokenNamesake.Shadowed "A" error :=
    exists_shadowed_withFiles (by decide +kernel) (by decide) (by decide)
      (show ("A" ++ ".json", "\x7b") ∈ _ by decide) (by decide +kernel)
  refine ⟨hnames, by rw [defaultName, hnames], ?_⟩
  rintro ⟨e, he, -⟩
  rw [resolve_of_shadowed hshadowed] at he
  cases he

end ScenarioRunner.EnvironmentFolder
