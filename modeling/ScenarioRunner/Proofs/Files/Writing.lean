import Mathlib.Tactic.Common
import ScenarioRunner.Files.Tree

/-!
# Disks that have been written to

Writing a file makes the directories above it.  What was there before stays of its kind, and the
directories of the same path need not be made again.

* `FileTree.isDirectoryAt?` says of which kind something is, if it is there at all.
* `FileTree.Keeps`: what is in one tree is in another one and of the same kind.  `FileTree.keeps_put` is
  what is asked of something that is put into a tree, and `FileTree.isDirectoryAt?_put` what it changes.
* `Disk.enter_eq` is one name of a path, and `Disk.walk_again` the whole path: it leads to the same place
  wherever its directories are kept.
* `Disk.takes_of_write`: after a file has been written into a directory, files are taken there as before.

The directory from which relative paths are seen has to be there.
-/

namespace ScenarioRunner

/-! ## Trees -/

namespace FileTree

variable {t u v new : FileTree} {entries : List (String × FileTree)} {name : String}
  {names other : List String} {k : Bool}

def isDirectory : FileTree → Bool
  | file _ => false
  | directory _ => true

/-- Whether a directory stands at some names, if anything does. -/
def isDirectoryAt? (t : FileTree) (names : List String) : Option Bool :=
  (t.find? names).map isDirectory

lemma isDirectory_eq_true (h : t.isDirectory = true) : ∃ entries, t = directory entries := by
  cases t with
  | file bytes => cases h
  | directory entries => exact ⟨entries, rfl⟩

lemma isDirectoryAt?_nil (t : FileTree) : t.isDirectoryAt? [] = some t.isDirectory := rfl

lemma isDirectoryAt?_cons (t : FileTree) (name : String) (names : List String) :
    t.isDirectoryAt? (name :: names) =
      (t.child? name).bind fun u => u.isDirectoryAt? names := by
  rw [isDirectoryAt?, find?, Option.map_bind]
  rfl

lemma isDirectoryAt?_append (t : FileTree) (names rest : List String) :
    t.isDirectoryAt? (names ++ rest) = (t.find? names).bind fun u => u.isDirectoryAt? rest := by
  induction names generalizing t with
  | nil => rfl
  | cons name names ih =>
      rw [List.cons_append, isDirectoryAt?_cons, find?, Option.bind_assoc]
      exact Option.bind_congr fun u _ => ih u

/-- Above what is there stands a directory. -/
lemma isDirectoryAt?_of_append (h : t.isDirectoryAt? (names ++ [name]) = some k) :
    t.isDirectoryAt? names = some true := by
  rw [isDirectoryAt?_append] at h
  obtain ⟨u, hu, hchild⟩ := Option.bind_eq_some_iff.mp h
  rw [isDirectoryAt?_cons] at hchild
  cases u with
  | file bytes => cases hchild
  | directory entries => rw [isDirectoryAt?, hu]; rfl

lemma lookup_cons (n m : String) (t : FileTree) (entries : List (String × FileTree)) :
    ((m, t) :: entries).lookup n = if n = m then some t else entries.lookup n := by
  rw [List.lookup_cons]
  by_cases h : n = m
  · rw [beq_iff_eq.mpr h, if_pos h]
  · rw [beq_eq_false_iff_ne.mpr h, if_neg h]

lemma lookup_place (name : String) (t : FileTree) (entries : List (String × FileTree)) (n : String) :
    (place name t entries).lookup n = if n = name then some t else entries.lookup n := by
  induction entries with
  | nil => rw [place, lookup_cons]
  | cons entry entries ih =>
      obtain ⟨m, u⟩ := entry
      rw [place]
      by_cases hm : m = name
      · subst hm
        rw [if_pos rfl, lookup_cons, lookup_cons]
        split <;> rfl
      · rw [if_neg hm, lookup_cons, lookup_cons, ih]
        by_cases h : n = m
        · subst h
          rw [if_pos rfl, if_neg hm, if_pos rfl]
        · rw [if_neg h, if_neg h]

/-- What stands below a directory into which something is put. -/
lemma isDirectoryAt?_put_cons (entries : List (String × FileTree)) (name : String)
    (names : List String) (new : FileTree) (n : String) (rest : List String) :
    ((directory entries).put (name :: names) new).isDirectoryAt? (n :: rest) =
      if n = name then
        ((((directory entries).child? name).getD empty).put names new).isDirectoryAt? rest
      else (directory entries).isDirectoryAt? (n :: rest) := by
  rw [put, isDirectoryAt?_cons, child?, lookup_place]
  split
  · rfl
  · rw [isDirectoryAt?_cons, child?]

/-- **What is in one tree is in another one**, and of the same kind. -/
def Keeps (t u : FileTree) : Prop :=
  ∀ names k, t.isDirectoryAt? names = some k → u.isDirectoryAt? names = some k

lemma Keeps.refl (t : FileTree) : t.Keeps t :=
  fun _ _ h => h

lemma Keeps.trans (h : t.Keeps u) (h' : u.Keeps v) : t.Keeps v :=
  fun names k hk => h' names k (h names k hk)

/-- **Something new takes nothing away** if it stands where nothing was, or is a file in the place of a
file. -/
theorem keeps_put (h : ∀ k, t.isDirectoryAt? names = some k → k = false ∧ new.isDirectory = false) :
    t.Keeps (t.put names new) := by
  induction names generalizing t with
  | nil =>
      obtain ⟨hfile, hnew⟩ := h t.isDirectory rfl
      intro other k hk
      cases t with
      | directory entries => cases hfile
      | file bytes =>
          cases other with
          | nil =>
              rw [isDirectoryAt?_nil, Option.some.injEq] at hk
              rw [put, isDirectoryAt?_nil, hnew, ← hk, hfile]
          | cons n rest => cases hk
  | cons name names ih =>
      cases t with
      | file bytes => exact .refl _
      | directory entries =>
          intro other k hk
          cases other with
          | nil => exact hk
          | cons n rest =>
              rw [isDirectoryAt?_put_cons]
              split
              · next hname =>
                subst hname
                rw [isDirectoryAt?_cons] at hk
                obtain ⟨u, hu, hrest⟩ := Option.bind_eq_some_iff.mp hk
                rw [hu, Option.getD_some]
                refine ih (fun k hk => h k ?_) rest k hrest
                rw [isDirectoryAt?_cons, hu]
                exact hk
              · exact hk

/-- **What is put into a directory** stands there, and the other entries of the directory are as
before. -/
theorem isDirectoryAt?_put (h : t.isDirectoryAt? names = some true) (name other : String)
    (new : FileTree) :
    (t.put (names ++ [name]) new).isDirectoryAt? (names ++ [other]) =
      if other = name then some new.isDirectory else t.isDirectoryAt? (names ++ [other]) := by
  induction names generalizing t with
  | nil =>
      obtain ⟨entries, rfl⟩ := isDirectory_eq_true (Option.some.inj h)
      exact isDirectoryAt?_put_cons entries name [] new other []
  | cons n names ih =>
      rw [isDirectoryAt?_cons] at h
      obtain ⟨u, hu, hrest⟩ := Option.bind_eq_some_iff.mp h
      cases t with
      | file bytes => cases hu
      | directory entries =>
          rw [List.cons_append, List.cons_append, isDirectoryAt?_put_cons, if_pos rfl, hu,
            Option.getD_some, ih hrest, isDirectoryAt?_cons, hu, Option.bind_some]

/-- A file with a name can be put into the directory at some names. -/
structure TakesAt (t : FileTree) (names : List String) (name : String) : Prop where
  directory : t.isDirectoryAt? names = some true
  short : name.utf8ByteSize ≤ Disk.maxName
  free : t.isDirectoryAt? (names ++ [name]) ≠ some true

/-- A file takes the place of a file or of nothing. -/
lemma TakesAt.keeps_put (h : t.TakesAt names name) (bytes : List UInt8) :
    t.Keeps (t.put (names ++ [name]) (file bytes)) := by
  refine FileTree.keeps_put fun k hk => ⟨?_, rfl⟩
  cases k with
  | false => rfl
  | true => exact absurd hk h.free

/-- **A file is in the way of no other file**, nor of a later one with its own name. -/
theorem TakesAt.takesAt_put_iff (h : t.TakesAt names name) (bytes : List UInt8) (other : String) :
    (t.put (names ++ [name]) (file bytes)).TakesAt names other ↔ t.TakesAt names other := by
  have hdirectory := h.keeps_put bytes names true h.directory
  have hentry := isDirectoryAt?_put h.directory name other (file bytes)
  constructor
  · intro hother
    refine ⟨h.directory, hother.short, ?_⟩
    by_cases hname : other = name
    · rw [hname]
      exact h.free
    · rw [if_neg hname] at hentry
      exact hentry ▸ hother.free
  · intro hother
    refine ⟨hdirectory, hother.short, ?_⟩
    rw [hentry]
    split
    · exact fun heq => Bool.false_ne_true (Option.some.inj heq)
    · exact hother.free

end FileTree

/-! ## Paths -/

namespace Disk

variable {d d' e : Disk} {names names' there : List String} {segment path name : String}
  {segments : List String} {bytes : List UInt8}

/-- The directory from which relative paths are seen is there. -/
def Standing (d : Disk) : Prop :=
  d.tree.isDirectoryAt? d.here = some true

/-- What is on one disk is on another one, and both are seen from the same directory. -/
structure Keeps (d d' : Disk) : Prop where
  tree : d.tree.Keeps d'.tree
  here : d'.here = d.here

lemma Keeps.refl (d : Disk) : d.Keeps d :=
  ⟨.refl _, rfl⟩

lemma Keeps.trans (h : d.Keeps d') (h' : d'.Keeps e) : d.Keeps e :=
  ⟨h.tree.trans h'.tree, h'.here.trans h.here⟩

lemma Keeps.standing (h : d.Keeps d') (hd : d.Standing) : d'.Standing := by
  rw [Standing, h.here]
  exact h.tree _ _ hd

/-- Where a name leads from a directory if nothing is missing there. -/
def next (names : List String) (segment : String) : Except FileError (List String) :=
  if segment = "" ∨ segment = "." then .ok names
  else if segment = ".." then .ok names.dropLast
  else if maxName < segment.utf8ByteSize then .error .nameTooLong
  else .ok (names ++ [segment])

/-- The disk with an empty directory at some names, unless something is there. -/
def mended (d : Disk) (names : List String) : Disk :=
  if (d.tree.isDirectoryAt? names).isSome then d else { d with tree := d.tree.put names .empty }

lemma isDirectoryAt?_dropLast (h : d.tree.isDirectoryAt? names = some true) :
    d.tree.isDirectoryAt? names.dropLast = some true := by
  rcases names.eq_nil_or_concat with rfl | ⟨front, name, rfl⟩
  · exact h
  · rw [List.concat_eq_append] at h ⊢
    rw [List.dropLast_concat]
    exact FileTree.isDirectoryAt?_of_append h

/-- A name is followed from a directory, and what is missing is made. -/
lemma enter_eq (h : d.tree.isDirectoryAt? names = some true) (segment : String) :
    enter (d, names) segment = (next names segment).map fun names' => (d.mended names', names') := by
  obtain ⟨u, hu, hdirectory⟩ := Option.map_eq_some_iff.mp h
  obtain ⟨entries, rfl⟩ := FileTree.isDirectory_eq_true hdirectory
  have hchild : (d.tree.isDirectoryAt? (names ++ [segment])).isSome =
      ((FileTree.directory entries).child? segment).isSome := by
    rw [FileTree.isDirectoryAt?_append, hu, Option.bind_some, FileTree.isDirectoryAt?_cons]
    cases (FileTree.directory entries).child? segment <;> rfl
  have hup := isDirectoryAt?_dropLast h
  simp only [enter, follow, hu, next]
  by_cases hhere : segment = "" ∨ segment = "."
  · simp [hhere, Except.map, mended, h]
  · by_cases hparent : segment = ".."
    · simp [hparent, Except.map, mended, hup]
    · by_cases hlong : maxName < segment.utf8ByteSize
      · simp [hhere, hparent, hlong, Except.map]
      · by_cases hthere : ((FileTree.directory entries).child? segment).isSome = true
        · simp [hhere, hparent, hlong, hchild, hthere, Except.map, mended]
        · simp [hhere, hparent, hlong, hchild, hthere, Except.map, mended]

/-- Nobody goes on from what is no directory. -/
lemma isDirectoryAt?_of_enter (hnames : d.tree.isDirectoryAt? names ≠ none)
    (h : enter (d, names) segment = .ok (d', names')) : d.tree.isDirectoryAt? names = some true := by
  obtain ⟨k, hk⟩ := Option.ne_none_iff_exists'.mp hnames
  obtain ⟨u, hu, hdirectory⟩ := Option.map_eq_some_iff.mp hk
  cases u with
  | directory entries => rw [hk, ← hdirectory]; rfl
  | file bytes =>
      simp only [enter, follow, hu] at h
      cases h

lemma mended_eq_self (h : d.tree.isDirectoryAt? names ≠ none) : d.mended names = d :=
  if_pos (Option.isSome_iff_ne_none.mpr h)

lemma keeps_mended (d : Disk) (names : List String) : d.Keeps (d.mended names) := by
  rw [mended]
  split
  · exact .refl d
  · next hnone =>
    rw [Option.not_isSome_iff_eq_none] at hnone
    exact ⟨FileTree.keeps_put fun k hk => absurd (hnone.symm.trans hk) nofun, rfl⟩

/-- Where a name leads, something is there or has been made. -/
lemma isDirectoryAt?_mended (h : d.tree.isDirectoryAt? names = some true)
    (hnext : next names segment = .ok names') :
    (d.mended names').tree.isDirectoryAt? names' ≠ none := by
  by_cases hthere : d.tree.isDirectoryAt? names' = none
  · have hentry : names' = names ++ [segment] := by
      rw [next] at hnext
      split at hnext
      · obtain rfl := Except.ok.inj hnext
        exact absurd (h.symm.trans hthere) nofun
      · split at hnext
        · obtain rfl := Except.ok.inj hnext
          exact absurd ((isDirectoryAt?_dropLast h).symm.trans hthere) nofun
        · split at hnext
          · cases hnext
          · exact (Except.ok.inj hnext).symm
    have hmade := FileTree.isDirectoryAt?_put h segment segment .empty
    rw [if_pos rfl, ← hentry] at hmade
    rw [mended, if_neg (by rw [hthere]; exact Bool.false_ne_true), hmade]
    nofun
  · rwa [mended_eq_self hthere]

/-- **A step of the way** takes nothing away, and leads to the same place wherever its outcome is
kept. -/
lemma enter_again (hnames : d.tree.isDirectoryAt? names ≠ none)
    (h : enter (d, names) segment = .ok (d', names')) :
    d.Keeps d' ∧ d'.tree.isDirectoryAt? names' ≠ none ∧
      ∀ e, d'.Keeps e → enter (e, names) segment = .ok (e, names') := by
  have hdirectory := isDirectoryAt?_of_enter hnames h
  rw [enter_eq hdirectory] at h
  cases hnext : next names segment with
  | error reason => rw [hnext] at h; cases h
  | ok other =>
      rw [hnext] at h
      obtain ⟨rfl, rfl⟩ := Prod.mk.inj (Except.ok.inj h)
      have hmended := isDirectoryAt?_mended hdirectory hnext
      refine ⟨keeps_mended d other, hmended, fun e he => ?_⟩
      obtain ⟨k, hk⟩ := Option.ne_none_iff_exists'.mp hmended
      have hthere : e.tree.isDirectoryAt? other ≠ none := by
        rw [he.tree _ _ hk]
        nofun
      rw [enter_eq ((keeps_mended d other).trans he |>.tree _ _ hdirectory), hnext]
      exact congrArg (fun e => Except.ok (e, other)) (mended_eq_self hthere)

/-- **A way that has been made** is there wherever it is kept, and leads to the same place. -/
theorem walk_again (hnames : d.tree.isDirectoryAt? names ≠ none)
    (h : segments.foldlM enter (d, names) = .ok (d', names')) :
    d.Keeps d' ∧ ∀ e, d'.Keeps e → segments.foldlM enter (e, names) = .ok (e, names') := by
  induction segments generalizing d names with
  | nil =>
      obtain ⟨rfl, rfl⟩ := Prod.mk.inj (Except.ok.inj h)
      exact ⟨.refl d, fun e _ => rfl⟩
  | cons segment segments ih =>
      rw [List.foldlM_cons] at h
      cases hstep : enter (d, names) segment with
      | error reason => rw [hstep] at h; cases h
      | ok behind =>
          rw [hstep] at h
          obtain ⟨hkeeps, hthere, hagain⟩ := enter_again hnames hstep
          obtain ⟨hrest, hway⟩ := ih hthere h
          refine ⟨hkeeps.trans hrest, fun e he => ?_⟩
          rw [List.foldlM_cons, hagain e (hrest.trans he)]
          exact hway e he

lemma start_of_here (h : e.here = d.here) (path : String) : e.start path = d.start path := by
  rw [start, start, h]

/-- Paths start at the top or at the directory from which they are seen. -/
lemma isDirectoryAt?_start (hd : d.Standing) (h : d.start path = .ok (names, segments)) :
    d.tree.isDirectoryAt? names ≠ none := by
  have hnames : (if Path.isAbsolute path then [] else d.here) = names := by
    simp only [start] at h
    split at h
    · cases h
    · split at h
      · cases h
      · split at h
        · cases h
        · exact (Prod.mk.inj (Except.ok.inj h)).1
  rw [← hnames]
  split
  · rw [FileTree.isDirectoryAt?_nil]
    nofun
  · rw [hd]
    nofun

/-! ## Files -/

/-- The disk on which the directories of a path have been made, and the names of the last one. -/
def makeAll (d : Disk) (path : String) : Except FileError (Disk × List String) :=
  d.start path >>= fun (names, segments) => segments.foldlM enter (d, names)

/-- **Directories that have been made** are there wherever they are kept. -/
theorem makeAll_again (hd : d.Standing) (h : d.makeAll path = .ok (d', there)) :
    d.Keeps d' ∧ ∀ e, d'.Keeps e → e.makeAll path = .ok (e, there) := by
  rw [makeAll] at h
  cases hstart : d.start path with
  | error reason => rw [hstart] at h; cases h
  | ok way =>
      rw [hstart] at h
      obtain ⟨hkeeps, hagain⟩ := walk_again (isDirectoryAt?_start hd hstart) h
      refine ⟨hkeeps, fun e he => ?_⟩
      rw [makeAll, start_of_here (hkeeps.trans he).here, hstart]
      exact hagain e he

/-- The disk with a file in the directory at some names. -/
def putFile (d : Disk) (names : List String) (name : String) (bytes : List UInt8) :
    Except FileError Disk :=
  match d.tree.find? names with
  | some (.directory entries) =>
    if maxName < name.utf8ByteSize then .error .nameTooLong
    else
      match entries.lookup name with
      | some (.directory _) => .error .isDirectory
      | _ => .ok { d with tree := d.tree.put (names ++ [name]) (.file bytes) }
  | _ => .error .notDirectory

lemma putFile_eq_ok_iff : d.putFile names name bytes = .ok d' ↔
    d.tree.TakesAt names name ∧
      d' = { d with tree := d.tree.put (names ++ [name]) (.file bytes) } := by
  rw [putFile]
  split
  · next entries hfind =>
    have hdirectory : d.tree.isDirectoryAt? names = some true := by
      rw [FileTree.isDirectoryAt?, hfind]
      rfl
    have hentry : d.tree.isDirectoryAt? (names ++ [name]) =
        (entries.lookup name).map FileTree.isDirectory := by
      rw [FileTree.isDirectoryAt?_append, hfind, Option.bind_some, FileTree.isDirectoryAt?_cons]
      cases h : entries.lookup name <;> simp [FileTree.child?, h, FileTree.isDirectoryAt?_nil]
    split
    · next hlong => exact iff_of_false nofun fun h => Nat.not_le.mpr hlong h.1.short
    · next hshort =>
      split
      · next inner hlookup =>
        rw [hlookup] at hentry
        exact iff_of_false nofun fun h => h.1.free hentry
      · next hlookup =>
        have hfree : d.tree.isDirectoryAt? (names ++ [name]) ≠ some true := by
          rw [hentry]
          intro h
          obtain ⟨u, hu, hinner⟩ := Option.map_eq_some_iff.mp h
          obtain ⟨inner, rfl⟩ := FileTree.isDirectory_eq_true hinner
          exact hlookup inner hu
        rw [Except.ok.injEq, eq_comm,
          and_iff_right (FileTree.TakesAt.mk hdirectory (Nat.not_lt.mp hshort) hfree)]
  · next hfind =>
    refine iff_of_false nofun fun h => ?_
    obtain ⟨u, hu, hdirectory⟩ := Option.map_eq_some_iff.mp h.1.directory
    obtain ⟨entries, rfl⟩ := FileTree.isDirectory_eq_true hdirectory
    exact hfind entries hu

lemma write_eq (d : Disk) (path name : String) (bytes : List UInt8) :
    d.write path name bytes =
      d.makeAll path >>= fun (e, there) => e.putFile there name bytes := by
  rw [write, makeAll]
  cases d.start path <;> rfl

lemma write_eq_ok_iff : d.write path name bytes = .ok d' ↔
    ∃ e there, d.makeAll path = .ok (e, there) ∧ e.tree.TakesAt there name ∧
      d' = { e with tree := e.tree.put (there ++ [name]) (.file bytes) } := by
  rw [write_eq]
  cases hmade : d.makeAll path with
  | error reason => exact iff_of_false nofun fun ⟨_, _, h, _⟩ => by cases h
  | ok made =>
      obtain ⟨e, there⟩ := made
      refine putFile_eq_ok_iff.trans ⟨fun h => ⟨e, there, rfl, h⟩, ?_⟩
      rintro ⟨e', there', heq, h⟩
      obtain ⟨rfl, rfl⟩ := Prod.mk.inj (Except.ok.inj heq)
      exact h

/-- A file with a name can be written into the directory at a path. -/
def Takes (d : Disk) (path name : String) : Prop :=
  ∃ e there, d.makeAll path = .ok (e, there) ∧ e.tree.TakesAt there name

lemma takes_iff (h : d.makeAll path = .ok (e, there)) :
    d.Takes path name ↔ e.tree.TakesAt there name := by
  refine ⟨?_, fun htakes => ⟨e, there, h, htakes⟩⟩
  rintro ⟨e', there', h', htakes⟩
  obtain ⟨rfl, rfl⟩ := Prod.mk.inj (Except.ok.inj (h.symm.trans h'))
  exact htakes

/-- It does not matter what the file holds. -/
lemma exists_write_iff (d : Disk) (path name : String) (bytes : List UInt8) :
    (∃ d', d.write path name bytes = .ok d') ↔ d.Takes path name := by
  simp only [write_eq_ok_iff]
  constructor
  · rintro ⟨_, e, there, hmade, htakes, -⟩
    exact ⟨e, there, hmade, htakes⟩
  · rintro ⟨e, there, hmade, htakes⟩
    exact ⟨_, e, there, hmade, htakes, rfl⟩

/-- **After a file has been written** into a directory, files are taken there as before. -/
theorem takes_of_write (hd : d.Standing) (h : d.write path name bytes = .ok d') :
    d.Keeps d' ∧ ∀ other, d'.Takes path other ↔ d.Takes path other := by
  obtain ⟨e, there, hmade, htakes, rfl⟩ := write_eq_ok_iff.mp h
  obtain ⟨hkeeps, hagain⟩ := makeAll_again hd hmade
  have hput : e.Keeps { e with tree := e.tree.put (there ++ [name]) (.file bytes) } :=
    ⟨htakes.keeps_put bytes, rfl⟩
  refine ⟨hkeeps.trans hput, fun other => ?_⟩
  rw [takes_iff (hagain _ hput), takes_iff hmade]
  exact htakes.takesAt_put_iff bytes other

end Disk

end ScenarioRunner
