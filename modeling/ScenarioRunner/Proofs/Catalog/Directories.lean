import Mathlib.Data.List.Induction
import Mathlib.Data.List.Nodup
import ScenarioRunner.Catalog.Directory
import ScenarioRunner.Proofs.Files.Trees

/-!
# The classes of a directory

Which files of a directory have a class in its catalog.

* `Catalog.classes_ofList` and `Catalog.mem_classes_ofList`: of classes that are put in one by one, the
  last one with each name stays.
* `Catalog.Lists`: the files that a catalog is made of are the scenario files of the directory, in the
  order of their paths.
* `Catalog.classOf` is the class that a file is to have, by the files before it.
* `Catalog.classes_load`: every file has its class in the catalog exactly if no file whose class name
  is taken has a relative path which is itself the class name of another file.

Class names have points between their parts, and relative paths have separators.  They can be the same
text only for files right below the root, such as `a.yaml`.
-/

namespace ScenarioRunner.Catalog

variable {root : String} {files : List SourceFile} {f g : SourceFile} {c d : ClassSource}
  {cs : List ClassSource} {entries : List (String × FileTree)}

/-! ## Classes that are put in -/

lemma place_of_not_mem (h : c.name ∉ cs.map ClassSource.name) : place c cs = cs ++ [c] := by
  induction cs with
  | nil => rfl
  | cons d cs ih =>
      rw [List.map_cons, List.mem_cons, not_or] at h
      rw [place, if_neg (Ne.symm h.1), ih h.2, List.cons_append]

/-- A class takes the place of the one with its name. -/
lemma mem_place (h : (cs.map ClassSource.name).Nodup) :
    d ∈ place c cs ↔ d = c ∨ (d ∈ cs ∧ d.name ≠ c.name) := by
  induction cs with
  | nil => simp [place]
  | cons e cs ih =>
      rw [List.map_cons, List.nodup_cons] at h
      rw [place]
      split
      · next hname =>
        have hothers : ∀ d ∈ cs, d.name ≠ c.name := fun d hd heq =>
          h.1 (List.mem_map.mpr ⟨d, hd, heq.trans hname.symm⟩)
        grind
      · next hname => grind

lemma ofList_concat (cs : List ClassSource) (c : ClassSource) :
    ofList (cs ++ [c]) = (ofList cs).add c :=
  List.foldl_concat ..

/-- **Classes stay as they are put in** exactly if their names are different. -/
theorem classes_ofList : (ofList cs).classes = cs ↔ (cs.map ClassSource.name).Nodup := by
  refine ⟨fun h => h ▸ (ofList cs).distinct, fun h => ?_⟩
  induction cs using List.reverseRecOn with
  | nil => rfl
  | append_singleton cs c ih =>
      rw [List.map_append, List.map_singleton, List.nodup_append] at h
      have hnew : c.name ∉ cs.map ClassSource.name := fun hmem =>
        h.2.2 c.name hmem c.name (List.mem_singleton_self _) rfl
      have hclasses : (ofList (cs ++ [c])).classes = place c (ofList cs).classes := by
        rw [ofList_concat]
        rfl
      rw [hclasses, ih h.1, place_of_not_mem hnew]

/-- **The last class with a name** stays. -/
theorem mem_classes_ofList : c ∈ (ofList cs).classes ↔
    ∃ front behind, cs = front ++ c :: behind ∧ ∀ d ∈ behind, d.name ≠ c.name := by
  induction cs using List.reverseRecOn with
  | nil => simp [ofList, empty]
  | append_singleton cs d ih =>
      have hclasses : (ofList (cs ++ [d])).classes = place d (ofList cs).classes := by
        rw [ofList_concat]
        rfl
      rw [hclasses, mem_place (ofList cs).distinct, ih]
      constructor
      · rintro (rfl | ⟨⟨front, behind, rfl, hbehind⟩, hname⟩)
        · exact ⟨cs, [], rfl, List.forall_mem_nil _⟩
        · refine ⟨front, behind ++ [d], by simp, fun e he => ?_⟩
          rcases List.mem_append.mp he with he | he
          · exact hbehind e he
          · exact List.mem_singleton.mp he ▸ Ne.symm hname
      · rintro ⟨front, behind, heq, hbehind⟩
        rcases List.eq_nil_or_concat behind with rfl | ⟨behind, e, rfl⟩
        · exact Or.inl (List.append_singleton_inj.mp heq).2.symm
        · rw [List.concat_eq_append, ← List.cons_append, ← List.append_assoc,
            List.append_singleton_inj] at heq
          obtain ⟨rfl, rfl⟩ := heq
          refine Or.inr ⟨⟨front, behind, rfl, fun e he => hbehind e (by simp [he])⟩, ?_⟩
          exact Ne.symm (hbehind d (by simp))

/-! ## Files -/

/-- One file comes before another one. -/
def SourceFile.Before (f g : SourceFile) : Prop :=
  Path.before f.path g.path = true

lemma SourceFile.before_iff : f.Before g ↔ Path.key f.path < Path.key g.path :=
  Path.before_iff ..

lemma perm_insertFile (f : SourceFile) (files : List SourceFile) :
    (insertFile f files).Perm (f :: files) := by
  induction files with
  | nil => exact .refl _
  | cons g rest ih =>
      rw [insertFile]
      split
      · exact .refl _
      · exact (ih.cons g).trans (.swap f g rest)

/-- Sorting keeps the files. -/
lemma perm_sortFiles (files : List SourceFile) : (sortFiles files).Perm files := by
  induction files with
  | nil => exact .refl _
  | cons f files ih => exact (perm_insertFile f _).trans (ih.cons f)

lemma pairwise_insertFile (hnew : ∀ g ∈ files, Path.key f.path ≠ Path.key g.path)
    (h : files.Pairwise SourceFile.Before) : (insertFile f files).Pairwise SourceFile.Before := by
  induction files with
  | nil => exact List.pairwise_singleton ..
  | cons g rest ih =>
      obtain ⟨hg, hrest⟩ := List.pairwise_cons.mp h
      rw [insertFile]
      split
      · next hbefore =>
        refine List.pairwise_cons.mpr ⟨fun k hk => ?_, h⟩
        rcases List.mem_cons.mp hk with rfl | hk
        · exact hbefore
        · have hfirst : f.Before g := hbefore
          exact SourceFile.before_iff.mpr
            ((SourceFile.before_iff.mp hfirst).trans (SourceFile.before_iff.mp (hg k hk)))
      · next hbefore =>
        have hlast : g.Before f := by
          refine SourceFile.before_iff.mpr (lt_of_le_of_ne ?_ (hnew g List.mem_cons_self).symm)
          exact not_lt.mp (mt SourceFile.before_iff.mpr hbefore)
        refine List.pairwise_cons.mpr
          ⟨fun k hk => ?_, ih (fun k hk => hnew k (List.mem_cons_of_mem g hk)) hrest⟩
        rcases List.mem_cons.mp ((perm_insertFile f rest).mem_iff.mp hk) with rfl | hk
        · exact hlast
        · exact hg k hk

/-- **Files with different paths** are sorted strictly. -/
theorem pairwise_sortFiles
    (h : files.Pairwise fun f g => Path.components f.path ≠ Path.components g.path) :
    (sortFiles files).Pairwise SourceFile.Before := by
  induction files with
  | nil => exact .nil
  | cons f files ih =>
      obtain ⟨hf, hfiles⟩ := List.pairwise_cons.mp h
      refine pairwise_insertFile (fun g hg heq => ?_) (ih hfiles)
      exact hf g ((perm_sortFiles files).mem_iff.mp hg) (Path.key_eq_iff.mp heq)

/-- **The scenario files of a directory**: names lead to each of them, no other file has such an
extension, and they stand in the order of their paths. -/
structure Lists (root : String) (entries : List (String × FileTree)) (files : List SourceFile) :
    Prop where
  mem_iff : ∀ {f : SourceFile}, f ∈ files ↔
    isScenarioFile f.path = true ∧
      ∃ names, (FileTree.directory entries).find? names = some (.file f.bytes) ∧
        f.path = Path.below root names
  sorted : files.Pairwise SourceFile.Before
  /-- Seen from the root, the path of what names lead to is made of these names. -/
  relative : ∀ {names t}, (FileTree.directory entries).find? names = some t →
    Path.relativeOr root (Path.below root names) = Text.joined "/" names

lemma lists_scenarioFiles (root : String) (h : FileTree.WellNamedIn entries) :
    Lists root entries (scenarioFiles root entries) where
  mem_iff := by
    intro f
    rw [scenarioFiles, (perm_sortFiles _).mem_iff, List.mem_filterMap]
    constructor
    · rintro ⟨⟨path, bytes⟩, hfile, hf⟩
      simp only [Option.ite_none_right_eq_some, Option.some.injEq] at hf
      obtain ⟨hscenario, rfl⟩ := hf
      exact ⟨hscenario, (FileTree.mem_filesIn h root).mp hfile⟩
    · rintro ⟨hscenario, hfile⟩
      exact ⟨(f.path, f.bytes), (FileTree.mem_filesIn h root).mpr hfile, if_pos hscenario⟩
  sorted := by
    refine pairwise_sortFiles (List.pairwise_filterMap.mpr ?_)
    refine (FileTree.pairwise_filesIn h root).imp fun {a b} hne f hf g hg => ?_
    simp only [Option.ite_none_right_eq_some, Option.some.injEq] at hf hg
    obtain ⟨-, rfl⟩ := hf
    obtain ⟨-, rfl⟩ := hg
    exact hne
  relative hfind :=
    Path.relativeOr_below root (FileTree.isName_of_find? (t := .directory entries) h hfind)

namespace Lists

variable (h : Lists root entries files)

include h

/-- A file is given by its relative path. -/
lemma eq_of_relativeOr (hf : f ∈ files) (hg : g ∈ files)
    (heq : Path.relativeOr root f.path = Path.relativeOr root g.path)
    (hnamed : FileTree.WellNamedIn entries) : f = g := by
  obtain ⟨-, names, hfind, hpath⟩ := h.mem_iff.mp hf
  obtain ⟨-, names', hfind', hpath'⟩ := h.mem_iff.mp hg
  have hne : ∀ {names bytes},
      (FileTree.directory entries).find? names = some (.file bytes) → names ≠ [] := by
    rintro _ _ hfind rfl
    exact FileTree.noConfusion (Option.some.inj hfind)
  have hisName : ∀ {names t}, (FileTree.directory entries).find? names = some t →
      ∀ name ∈ names, Path.IsName name := fun hfind =>
    FileTree.isName_of_find? (t := .directory entries) hnamed hfind
  rw [hpath, hpath', h.relative hfind, h.relative hfind'] at heq
  obtain rfl := Path.joined_injective (hne hfind) (hne hfind') (hisName hfind) (hisName hfind') heq
  have hbytes : f.bytes = g.bytes :=
    FileTree.file.inj (Option.some.inj (hfind.symm.trans hfind'))
  cases f
  cases g
  simp_all

/-- The files behind a file are those that come later. -/
lemma mem_behind_iff {front behind : List SourceFile} (heq : files = front ++ f :: behind) :
    g ∈ behind ↔ g ∈ files ∧ f.Before g := by
  subst heq
  obtain ⟨-, hbehind, hfront⟩ := List.pairwise_append.mp h.sorted
  constructor
  · exact fun hg => ⟨by simp [hg], (List.pairwise_cons.mp hbehind).1 g hg⟩
  · rintro ⟨hg, hbefore⟩
    have hlt := SourceFile.before_iff.mp hbefore
    rcases List.mem_append.mp hg with hg | hg
    · exact absurd hlt (lt_asymm (SourceFile.before_iff.mp (hfront g hg f List.mem_cons_self)))
    · rcases List.mem_cons.mp hg with rfl | hg
      · exact absurd hlt (lt_irrefl _)
      · exact hg

lemma nodup_path : (files.map SourceFile.path).Nodup := by
  refine List.pairwise_map.mpr (h.sorted.imp fun {f g} hbefore heq => ?_)
  have hlt := SourceFile.before_iff.mp hbefore
  rw [heq] at hlt
  exact lt_irrefl _ hlt

end Lists

/-! ## The class of a file -/

/-- The first of some files with a class name. -/
def first? (root : String) (files : List SourceFile) (name : String) : Option SourceFile :=
  files.find? fun f => className root f.path == name

/-- No file before has the same class name. -/
def IsFirst (root : String) (files : List SourceFile) (f : SourceFile) : Prop :=
  first? root files (className root f.path) = some f

/-- **The class of a file**: the first file with a class name has a class of this name, with its
producers or why they cannot be read, and each other one has a broken class that is named by its
relative path. -/
def classOf (root : String) (files : List SourceFile) (f : SourceFile) : ClassSource :=
  match first? root files (className root f.path) with
  | some g =>
    if g.path = f.path then ofFile (className root f.path) f
    else duplicate root (className root f.path) f g.path
  | none => ofFile (className root f.path) f

lemma of_first? {name : String} (h : first? root files name = some g) :
    g ∈ files ∧ className root g.path = name := by
  rw [first?] at h
  have hname := List.find?_some h
  exact ⟨List.mem_of_find?_eq_some h, beq_iff_eq.mp hname⟩

lemma first?_append (root : String) (seen files : List SourceFile) (name : String) :
    first? root (seen ++ files) name = (first? root seen name).or (first? root files name) :=
  List.find?_append

lemma first?_singleton (root : String) (f : SourceFile) (name : String) :
    first? root [f] name = if className root f.path = name then some f else none := by
  simp [first?, List.find?_singleton]

/-- A file that comes first has the class with its class name. -/
lemma classOf_of_isFirst (h : IsFirst root files f) :
    classOf root files f = ofFile (className root f.path) f := by
  rw [classOf, h]
  exact if_pos rfl

/-- A file that does not come first has the class of a duplicate. -/
lemma exists_classOf (hpaths : (files.map SourceFile.path).Nodup) (hf : f ∈ files)
    (h : ¬ IsFirst root files f) :
    ∃ g ∈ files, IsFirst root files g ∧ className root g.path = className root f.path ∧
      classOf root files f = duplicate root (className root f.path) f g.path := by
  have hsome : (first? root files (className root f.path)).isSome = true := by
    rw [first?, List.find?_isSome]
    exact ⟨f, hf, beq_self_eq_true _⟩
  obtain ⟨g, hg⟩ := Option.isSome_iff_exists.mp hsome
  obtain ⟨hmem, hname⟩ := of_first? hg
  have hpath : g.path ≠ f.path := fun heq => by
    obtain rfl := List.inj_on_of_nodup_map hpaths hmem hf heq
    exact h hg
  refine ⟨g, hmem, (congrArg (first? root files) hname).trans hg, hname, ?_⟩
  rw [classOf, hg]
  exact if_neg hpath

lemma name_ofFile (name : String) (f : SourceFile) : (ofFile name f).name = name := by
  unfold ofFile
  split <;> rfl

/-- **Files are added** as the classes that they are to have. -/
theorem addFiles_eq (seen : List SourceFile) {catalog : Catalog} {taken : List (String × String)}
    (hpaths : ((seen ++ files).map SourceFile.path).Nodup)
    (htaken : ∀ name, taken.lookup name = (first? root seen name).map SourceFile.path) :
    addFiles root catalog taken files =
      (files.map (classOf root (seen ++ files))).foldl add catalog := by
  induction files generalizing catalog taken seen with
  | nil => rfl
  | cons f rest ih =>
      have hseen : seen ++ f :: rest = (seen ++ [f]) ++ rest := by simp
      have hself : first? root [f] (className root f.path) = some f := by simp [first?_singleton]
      rw [addFiles, htaken, List.map_cons, List.foldl_cons]
      cases hfirst : first? root seen (className root f.path) with
      | none =>
          have hclass : classOf root (seen ++ f :: rest) f = ofFile (className root f.path) f := by
            refine classOf_of_isFirst ?_
            rw [IsFirst, hseen, first?_append, first?_append, hfirst, hself]
            rfl
          rw [hclass, hseen]
          refine ih (seen ++ [f]) (hseen ▸ hpaths) fun name => ?_
          rw [List.lookup_cons, first?_append, first?_singleton, htaken]
          by_cases hname : className root f.path = name
          · subst hname
            rw [hfirst, if_pos rfl, beq_self_eq_true]
            rfl
          · rw [if_neg hname, Option.or_none, beq_eq_false_iff_ne.mpr (Ne.symm hname)]
      | some g =>
          have hpath : g.path ≠ f.path := by
            rw [List.map_append, List.nodup_append] at hpaths
            exact hpaths.2.2 _ (List.mem_map_of_mem (of_first? hfirst).1) _ (by simp)
          have hclass : classOf root (seen ++ f :: rest) f =
              duplicate root (className root f.path) f g.path := by
            rw [classOf, first?_append, hfirst]
            exact if_neg hpath
          rw [hclass, hseen]
          refine ih (seen ++ [f]) (hseen ▸ hpaths) fun name => ?_
          rw [first?_append, first?_singleton, htaken]
          by_cases hname : className root f.path = name
          · subst hname
            rw [hfirst]
            rfl
          · rw [if_neg hname, Option.or_none]

/-- The catalog of some files is that of their classes. -/
lemma ofFiles_eq (root : String) (hpaths : (files.map SourceFile.path).Nodup) :
    ofFiles root files = ofList (files.map (classOf root files)) :=
  addFiles_eq [] hpaths fun _ => rfl

/-- The relative path of a file whose class name is taken is the class name of another file. -/
def Clash (root : String) (files : List SourceFile) (f g : SourceFile) : Prop :=
  ¬ IsFirst root files f ∧ IsFirst root files g ∧
    Path.relativeOr root f.path = className root g.path

/-- The classes of files have different names exactly if no relative path is a class name. -/
lemma nodup_name_iff (h : Lists root entries files) (hnamed : FileTree.WellNamedIn entries) :
    ((files.map (classOf root files)).map ClassSource.name).Nodup ↔
      ∀ f ∈ files, ∀ g ∈ files, ¬ Clash root files f g := by
  have hpaths := h.nodup_path
  have hfirst : ∀ {f}, IsFirst root files f → (classOf root files f).name = className root f.path :=
    fun hf => by rw [classOf_of_isFirst hf, name_ofFile]
  have hother : ∀ {f}, f ∈ files → ¬ IsFirst root files f →
      (classOf root files f).name = Path.relativeOr root f.path := by
    intro f hf hnot
    obtain ⟨g, -, -, -, hclass⟩ := exists_classOf hpaths hf hnot
    rw [hclass]
    rfl
  rw [List.map_map]
  constructor
  · rintro hnodup f hf g hg ⟨hf', hg', heq⟩
    have hname : (classOf root files f).name = (classOf root files g).name := by
      rw [hother hf hf', hfirst hg', heq]
    obtain rfl := List.inj_on_of_nodup_map hnodup hf hg hname
    exact hf' hg'
  · intro hnone
    refine hpaths.of_map.map_on fun f hf g hg heq => ?_
    have hname : (classOf root files f).name = (classOf root files g).name := heq
    by_cases hf' : IsFirst root files f <;> by_cases hg' : IsFirst root files g
    · rw [hfirst hf', hfirst hg'] at hname
      rw [IsFirst, hname] at hf'
      exact Option.some.inj (hf'.symm.trans hg')
    · rw [hfirst hf', hother hg hg'] at hname
      exact absurd ⟨hg', hf', hname.symm⟩ (hnone g hg f hf)
    · rw [hother hf hf', hfirst hg'] at hname
      exact absurd ⟨hf', hg', hname⟩ (hnone f hf g hg)
    · rw [hother hf hf', hother hg hg'] at hname
      exact h.eq_of_relativeOr hf hg hname hnamed

/-- Among the classes of files, the last one with each name stays. -/
lemma mem_classes_iff (h : Lists root entries files) :
    c ∈ (ofList (files.map (classOf root files))).classes ↔
      ∃ f ∈ files, c = classOf root files f ∧
        ∀ g ∈ files, f.Before g → (classOf root files g).name ≠ c.name := by
  rw [mem_classes_ofList]
  constructor
  · rintro ⟨front, behind, heq, hbehind⟩
    obtain ⟨front', rest, hfiles, rfl, hrest⟩ := List.map_eq_append_iff.mp heq
    obtain ⟨f, behind', rfl, rfl, rfl⟩ := List.map_eq_cons_iff.mp hrest
    refine ⟨f, by simp [hfiles], rfl, fun g hg hbefore => ?_⟩
    exact hbehind _ (List.mem_map_of_mem ((h.mem_behind_iff hfiles).mpr ⟨hg, hbefore⟩))
  · rintro ⟨f, hf, rfl, hlater⟩
    obtain ⟨front, behind, hfiles⟩ := List.append_of_mem hf
    refine ⟨front.map (classOf root files), behind.map (classOf root files), ?_, fun d hd => ?_⟩
    · rw [← List.map_cons, ← List.map_append, ← hfiles]
    · obtain ⟨g, hg, rfl⟩ := List.mem_map.mp hd
      obtain ⟨hmem, hbefore⟩ := (h.mem_behind_iff hfiles).mp hg
      exact hlater g hmem hbefore

/-- **The catalog of a directory** holds the class of every scenario file below it exactly if no file
whose class name is taken has the class name of another file as its relative path.  It never holds
another class, and in any case a class is missing only if the class of a later file has its name. -/
theorem classes_load {disk : Disk} (hentries : disk.entries? root = some entries)
    (hnamed : FileTree.WellNamedIn entries) :
    ∃ catalog files, load disk root = .ok catalog ∧ Lists root entries files ∧
      (catalog.classes = files.map (classOf root files) ↔
        ∀ f ∈ files, ∀ g ∈ files, ¬ Clash root files f g) ∧
      ∀ c, c ∈ catalog.classes ↔ ∃ f ∈ files, c = classOf root files f ∧
        ∀ g ∈ files, f.Before g → (classOf root files g).name ≠ c.name := by
  have hlists := lists_scenarioFiles root hnamed
  have hcatalog := ofFiles_eq root hlists.nodup_path
  refine ⟨ofFiles root (scenarioFiles root entries), _, by rw [load, hentries], hlists, ?_, ?_⟩
  · rw [hcatalog, classes_ofList, nodup_name_iff hlists hnamed]
  · intro c
    rw [hcatalog, mem_classes_iff hlists]

/-- A scenario document without producers. -/
def blankPage : FileTree :=
  .file (Text.Utf8.encode "producers: {}")

/-- A directory that holds `web/search.yaml` and `web/search.yml`. -/
def twoFormats : Disk :=
  ⟨.directory [("s", .directory
    [("web", .directory [("search.yaml", blankPage), ("search.yml", blankPage)])])], []⟩

/-- Two files of one class name have a class each. -/
theorem classes_load_twoFormats :
    ∃ entries catalog files, twoFormats.entries? "s" = some entries ∧
      FileTree.WellNamedIn entries ∧ load twoFormats "s" = .ok catalog ∧ Lists "s" entries files ∧
      (catalog.classes = files.map (classOf "s" files) ↔
        ∀ f ∈ files, ∀ g ∈ files, ¬ Clash "s" files f g) ∧
      ∀ c, c ∈ catalog.classes ↔ ∃ f ∈ files, c = classOf "s" files f ∧
        ∀ g ∈ files, f.Before g → (classOf "s" files g).name ≠ c.name := by
  have hentries : twoFormats.entries? "s" =
      some [("web", .directory [("search.yaml", blankPage), ("search.yml", blankPage)])] := by
    rw [Disk.entries?, Disk.get, Disk.locate,
      Disk.start_eq _ (by decide) (by decide) (by decide)]
    rfl
  have hnamed : FileTree.WellNamedIn
      [("web", .directory [("search.yaml", blankPage), ("search.yml", blankPage)])] := by
    decide +kernel
  obtain ⟨catalog, files, hload⟩ := classes_load hentries hnamed
  exact ⟨_, catalog, files, hentries, hnamed, hload⟩

/-- A directory that holds `a/yaml.json`, `a.json` and `a.yaml`. -/
def threeFiles : Disk :=
  ⟨.directory [("s", .directory
    [("a.json", blankPage), ("a.yaml", blankPage),
      ("a", .directory [("yaml.json", blankPage)])])], []⟩

/-- **A file can be lost**: the class of `a/yaml.json` gives way to that of `a.yaml`, which is broken
since `a.json` has its class name. -/
theorem lost_threeFiles :
    ∃ entries catalog files, threeFiles.entries? "s" = some entries ∧
      FileTree.WellNamedIn entries ∧ load threeFiles "s" = .ok catalog ∧ Lists "s" entries files ∧
      files.map SourceFile.path = ["s/a/yaml.json", "s/a.json", "s/a.yaml"] ∧
      catalog.classes.map (fun c => (c.name, c.loadError)) =
        [("a.yaml", some "duplicate class name 'a', already defined by a.json"), ("a", none)] := by
  have hentries : threeFiles.entries? "s" =
      some [("a.json", blankPage), ("a.yaml", blankPage),
        ("a", .directory [("yaml.json", blankPage)])] := by
    rw [Disk.entries?, Disk.get, Disk.locate,
      Disk.start_eq _ (by decide) (by decide) (by decide)]
    rfl
  have hnamed : FileTree.WellNamedIn
      [("a.json", blankPage), ("a.yaml", blankPage),
        ("a", .directory [("yaml.json", blankPage)])] := by
    decide +kernel
  refine ⟨_, _, _, hentries, hnamed, by rw [load, hentries], lists_scenarioFiles "s" hnamed, ?_, ?_⟩
  · decide +kernel
  · decide +kernel

end ScenarioRunner.Catalog
