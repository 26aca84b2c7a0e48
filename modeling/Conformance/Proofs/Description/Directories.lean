import Mathlib.Data.Finset.Max
import Conformance.Proofs.Description.WrittenForm

/-!
# Directories of description files

The description files of a directory are loaded in the order of their names. A registry holds the
types of the files so far, and each file adds its own or ends the run. A type may have been
described before in two ways, which are found out in two passes: within one file, where the first
name that comes again is named, and in an earlier file, where the names are gone through in their
own order and so the least one is named (`Conformance.Registry.FileFault`).

Since every file either adds new types or is at fault, every run has an outcome, and only one
(`Conformance.Registry.Outcome`). What is read is told by a store that keeps a record.

* `Conformance.Registry.mergeFile_of_nodup`, `Conformance.Registry.mergeFile_of_fault` – the two
  ends of one file;
* `Conformance.Registry.run_mergeFiles_iff` – files that are loaded in turn;
* `Conformance.Registry.directory_outcome` – directories.
-/

namespace Conformance

/-! ### Directories -/

/-- **A directory of regular files**, in the order in which it lists them. -/
structure FileStore.Holds (files : FileStore Id) (dir : String) (names : List String) : Prop where
  /-- These are the names in it. -/
  list : files.list dir = .ok names
  /-- Each is the name of a file. -/
  isFile : ∀ name ∈ names, files.isFile (FilePath.join dir name) = true

/-- The same files, with a record of the paths that are read. -/
def FileStore.recorded (files : FileStore Id) : FileStore (StateM (List String)) where
  read path := do
    modify (· ++ [path])
    return files.read path
  list path := return files.list path
  isDirectory path := return files.isDirectory path
  isFile path := return files.isFile path

namespace Registry

variable {files : FileStore Id} {dir path name : String} {paths log : List String}
  {earlier types : List ObjectType} {e : DescriptionError}

/-- **The types that a file describes**, in the order of the file. -/
def described (files : FileStore Id) (path : String) : Except DescriptionError (List ObjectType) :=
  match files.read path with
  | .error e => .error (.notLoaded path (.unreadable e))
  | .ok text =>
    let t := SourceText.ofText (FilePath.format path) text
    match t.decode t.readTypes with
    | .error fault => .error (.notLoaded path (.malformed fault))
    | .ok types => .ok types

/-- **A file is at fault**, after files that describe these types. -/
inductive FileFault (files : FileStore Id) (earlier : List ObjectType) (path : String) :
    DescriptionError → Prop
  /-- It cannot be read, or is no description. -/
  | unloadable {e : DescriptionError} (h : described files path = .error e) :
    FileFault files earlier path e
  /-- It describes a type twice; the first name that was there before is named. -/
  | repeated {before after : List ObjectType} {t : ObjectType}
    (h : described files path = .ok (before ++ t :: after)) (hbefore : (namesOf before).Nodup)
    (hmem : t.name ∈ namesOf before) : FileFault files earlier path (.duplicateType t.name path)
  /-- It describes a type of an earlier file; of the names of such types the least is named. -/
  | known {types : List ObjectType} {name : String} (h : described files path = .ok types)
    (hnames : (namesOf types).Nodup) (hmem : name ∈ namesOf types)
    (hearlier : name ∈ namesOf earlier)
    (hleast : ∀ other ∈ namesOf types, other ∈ namesOf earlier → name ≤ other) :
    FileFault files earlier path (.duplicateType name path)

/-- **The types of files**, in turn, if each file describes some and no name occurs twice. -/
def Collects (files : FileStore Id) (paths : List String) (types : List ObjectType) : Prop :=
  ∃ lists, List.Forall₂ (fun path list => described files path = .ok list) paths lists ∧
    types = lists.flatten ∧ (namesOf types).Nodup

/-- **What becomes of files that are loaded in turn**, and which of them are read. -/
inductive Outcome (files : FileStore Id) (paths : List String) :
    Except DescriptionError Registry → List String → Prop
  /-- All are read, and their types are registered. -/
  | loaded {types : List ObjectType} (h : Collects files paths types) :
    Outcome files paths (.ok (registered types)) paths
  /-- They are read up to the first that is at fault. -/
  | failed {before after : List String} {path : String} {types : List ObjectType}
    {e : DescriptionError} (hpaths : paths = before ++ path :: after)
    (h : Collects files before types) (hfault : FileFault files types path e) :
    Outcome files paths (.error e) (before ++ [path])

/-! ### One file -/

/-- A file is loaded by merging its types into nothing. -/
theorem loadFile_eq : loadFile files path =
    match described files path with
    | .error e => .error e
    | .ok types => empty.mergeFrom path types := by
  have hload : loadFile files path =
      match files.read path with
      | .error e => .error (.notLoaded path (.unreadable e))
      | .ok text => parse (FilePath.format path) text path := by
    unfold loadFile
    cases files.read path <;> rfl
  rw [hload, described]
  cases files.read path with
  | error e => rfl
  | ok text =>
    simp only [parse, ofSource]
    cases (SourceText.ofText (FilePath.format path) text).decode
      (SourceText.ofText (FilePath.format path) text).readTypes <;> rfl

theorem mergeFile_eq {r : Registry} : mergeFile files r path =
    match loadFile files path with
    | .error e => .error e
    | .ok types => r.mergeFrom path types.toList := by
  unfold mergeFile
  cases loadFile files path <;> rfl

theorem mergeFrom_registered (h : (namesOf (earlier ++ types)).Nodup) :
    (registered earlier).mergeFrom path types = .ok (registered (earlier ++ types)) := by
  rw [mergeFrom, merge_registered h]

/-- **A file whose types are all new adds them.** -/
theorem mergeFile_of_nodup (h : described files path = .ok types)
    (hnames : (namesOf (earlier ++ types)).Nodup) :
    mergeFile files (registered earlier) path = .ok (registered (earlier ++ types)) := by
  have htypes : (namesOf types).Nodup := by
    rw [namesOf_append] at hnames
    exact hnames.of_append_right
  -- the types are added in the order of their names, which makes no difference
  have hperm : (registered types).toList.Perm types := perm_toList_registered htypes
  have hsame : (namesOf (earlier ++ (registered types).toList)).Nodup :=
    ((hperm.append_left earlier).map _).nodup_iff.mpr hnames
  rw [mergeFile_eq, loadFile_eq, h]
  simp only [mergeFrom_empty htypes, mergeFrom_registered hsame]
  rw [registered_congr hsame hnames fun t => (hperm.append_left earlier).mem_iff]

/-- **Types that were there before end the merging**, and the least of their names is named. -/
theorem mergeFrom_registered_of_mem (hearlier : (namesOf earlier).Nodup)
    (htypes : (namesOf types).Nodup) (hmem : name ∈ namesOf types) (hknown : name ∈ namesOf earlier)
    (hleast : ∀ other ∈ namesOf types, other ∈ namesOf earlier → name ≤ other) :
    (registered earlier).mergeFrom path (registered types).toList =
      .error (.duplicateType name path) := by
  have hperm : (namesOf (registered types).toList).Perm (namesOf types) :=
    (perm_toList_registered htypes).map _
  obtain ⟨t, ht, rfl⟩ := List.mem_map.mp (hperm.mem_iff.mpr hmem)
  obtain ⟨before, after, hlist⟩ := List.append_of_mem ht
  have hsorted := pairwise_namesOf_toList htypes
  rw [hlist] at hperm hsorted
  rw [namesOf_append, List.pairwise_append] at hsorted
  -- what is listed before has lesser names, and so it is new
  have hnew : (namesOf (earlier ++ before)).Nodup := by
    rw [namesOf_append, List.nodup_append]
    refine ⟨hearlier, hsorted.1.imp fun hlt => ne_of_lt hlt, ?_⟩
    rintro other hother _ hbefore rfl
    have hother' : other ∈ namesOf types := by
      rw [← hperm.mem_iff, namesOf_append]
      exact List.mem_append_left _ hbefore
    exact absurd (hleast other hother' hother)
      (not_le.mpr (hsorted.2.2 other hbefore _ List.mem_cons_self))
  have hmerge : (registered earlier).merge (before ++ t :: after) = .error t.name :=
    merge_registered_of_mem hnew (by simp [hknown])
  rw [hlist, mergeFrom, hmerge]

/-- **A file that is at fault ends the merging.** -/
theorem mergeFile_of_fault (hearlier : (namesOf earlier).Nodup)
    (h : FileFault files earlier path e) :
    mergeFile files (registered earlier) path = .error e := by
  rw [mergeFile_eq, loadFile_eq]
  cases h with
  | unloadable h => rw [h]
  | repeated h hbefore hmem =>
    rw [h]
    simp only [mergeFrom_empty_of_mem hbefore hmem]
  | known h hnames hmem hknown hleast =>
    rw [h]
    simp only [mergeFrom_empty hnames]
    exact mergeFrom_registered_of_mem hearlier hnames hmem hknown hleast

/-- Of the names that two lists of types share there is a least one. -/
theorem exists_least_shared (hearlier : (namesOf earlier).Nodup) (htypes : (namesOf types).Nodup)
    (h : ¬(namesOf (earlier ++ types)).Nodup) :
    ∃ name ∈ namesOf types, name ∈ namesOf earlier ∧
      ∀ other ∈ namesOf types, other ∈ namesOf earlier → name ≤ other := by
  have hshared : ∃ name ∈ namesOf types, name ∈ namesOf earlier := by
    by_contra hnone
    rw [namesOf_append, List.nodup_append] at h
    refine h ⟨hearlier, htypes, ?_⟩
    rintro name hname _ hname' rfl
    exact hnone ⟨name, hname', hname⟩
  obtain ⟨name, hname, hleast⟩ := Finset.exists_min_image
    ((namesOf types).toFinset ∩ (namesOf earlier).toFinset) id (by
      obtain ⟨name, hname, hname'⟩ := hshared
      exact ⟨name, by simp [hname, hname']⟩)
  simp only [Finset.mem_inter, List.mem_toFinset, id_eq] at hname hleast
  exact ⟨name, hname.1, hname.2, fun other hother hother' => hleast other ⟨hother, hother'⟩⟩

/-- **A file is either at fault or adds new types.** -/
theorem exists_fileFault_or (files : FileStore Id) (path : String)
    (hearlier : (namesOf earlier).Nodup) :
    (∃ e, FileFault files earlier path e) ∨
      ∃ types, described files path = .ok types ∧ (namesOf (earlier ++ types)).Nodup := by
  cases h : described files path with
  | error e => exact .inl ⟨e, .unloadable h⟩
  | ok types =>
    by_cases htypes : (namesOf types).Nodup
    · by_cases hnames : (namesOf (earlier ++ types)).Nodup
      · exact .inr ⟨types, rfl, hnames⟩
      · obtain ⟨name, hmem, hknown, hleast⟩ := exists_least_shared hearlier htypes hnames
        exact .inl ⟨_, .known h htypes hmem hknown hleast⟩
    · obtain ⟨before, t, after, rfl, hbefore, ht⟩ := exists_repeated
        (show (namesOf []).Nodup from List.nodup_nil) htypes
      exact .inl ⟨_, .repeated h hbefore ht⟩

/-- A file with the written form of types describes these types. -/
theorem described_describe (hread : files.read path = .ok (describe types).text)
    (hformat : FilePath.format path = .json) (h : ∀ type ∈ types, ∀ f ∈ type.fields, f.Storable)
    (hwithin : AllAnnotations (·.nesting ≤ nestingLimit - 5) types)
    (hints : AllAnnotations Document.IntegersOnly types) : described files path = .ok types := by
  rw [described, hread]
  simp only [hformat, ofText_describe h hints, decode_describe h hwithin]

/-! ### Many files -/

theorem collects_nil : Collects files [] [] := ⟨[], .nil, rfl, List.nodup_nil⟩

theorem Collects.nodup (h : Collects files paths types) : (namesOf types).Nodup := by
  obtain ⟨-, -, -, hnames⟩ := h
  exact hnames

theorem Collects.snoc (h : Collects files paths earlier) (hfile : described files path = .ok types)
    (hnames : (namesOf (earlier ++ types)).Nodup) :
    Collects files (paths ++ [path]) (earlier ++ types) := by
  obtain ⟨lists, hlists, rfl, -⟩ := h
  exact ⟨lists ++ [types], List.rel_append hlists (.cons hfile .nil), by simp, hnames⟩

/-- **Every list of files has an outcome.** -/
theorem exists_outcome (files : FileStore Id) (paths : List String) :
    ∃ result reads, Outcome files paths result reads := by
  have hrun : (∃ types, Collects files paths types) ∨ ∃ before path after types e,
      paths = before ++ path :: after ∧ Collects files before types ∧
        FileFault files types path e := by
    induction paths using List.reverseRecOn with
    | nil => exact .inl ⟨[], collects_nil⟩
    | append_singleton paths path ih =>
      rcases ih with ⟨types, h⟩ | ⟨before, path', after, types, e, rfl, h, hfault⟩
      · rcases exists_fileFault_or files path h.nodup with
          ⟨e, hfault⟩ | ⟨new, hfile, hnames⟩
        · exact .inr ⟨paths, path, [], types, e, rfl, h, hfault⟩
        · exact .inl ⟨types ++ new, h.snoc hfile hnames⟩
      · exact .inr ⟨before, path', after ++ [path], types, e, by simp, h, hfault⟩
  rcases hrun with ⟨types, h⟩ | ⟨before, path, after, types, e, hpaths, h, hfault⟩
  · exact ⟨_, _, .loaded h⟩
  · exact ⟨_, _, .failed hpaths h hfault⟩

/-! ### Runs -/

theorem run_mergeFile {r : Registry} : (mergeFile files.recorded r path).run log =
    (mergeFile files r path, log ++ [path]) := by
  have hload : (loadFile files.recorded path).run log = (loadFile files path, log ++ [path]) := by
    have hread : (files.recorded.read path).run log = (files.read path, log ++ [path]) := rfl
    unfold loadFile
    rw [StateT.run_bind, hread]
    cases files.read path <;> rfl
  unfold mergeFile
  rw [StateT.run_bind, hload]
  cases loadFile files path <;> rfl

theorem run_mergeFiles_cons {r : Registry} :
    (mergeFiles files.recorded r (path :: paths)).run log =
      match mergeFile files r path with
      | .error e => (.error e, log ++ [path])
      | .ok r => (mergeFiles files.recorded r paths).run (log ++ [path]) := by
  rw [mergeFiles, StateT.run_bind, run_mergeFile]
  cases mergeFile files r path <;> rfl

/-- **Files that describe new types are passed through**, and the run goes on with the rest. -/
theorem run_mergeFiles_append {lists : List (List ObjectType)} {rest : List String}
    (hlists : List.Forall₂ (fun path list => described files path = .ok list) paths lists)
    (hnames : (namesOf (earlier ++ lists.flatten)).Nodup) :
    (mergeFiles files.recorded (registered earlier) (paths ++ rest)).run log =
      (mergeFiles files.recorded (registered (earlier ++ lists.flatten)) rest).run
        (log ++ paths) := by
  induction hlists generalizing earlier log with
  | nil => simp
  | cons hfile _ ih =>
    rw [List.flatten_cons, ← List.append_assoc] at hnames ⊢
    rw [List.cons_append, run_mergeFiles_cons, mergeFile_of_nodup hfile (nodup_left hnames)]
    simp only [ih hnames, List.append_assoc, List.singleton_append]

/-- The record does not change what is loaded. -/
theorem fst_run_mergeFiles {r : Registry} :
    ((mergeFiles files.recorded r paths).run log).1 = mergeFiles files r paths := by
  induction paths generalizing r log with
  | nil => rfl
  | cons path rest ih =>
    have hcons : mergeFiles files r (path :: rest) =
        match mergeFile files r path with
        | .error e => .error e
        | .ok r => mergeFiles files r rest := by
      rw [mergeFiles]
      cases mergeFile files r path <;> rfl
    rw [run_mergeFiles_cons, hcons]
    cases mergeFile files r path with
    | error e => rfl
    | ok r => exact ih

/-- A run reads nothing of a store but its files. -/
theorem run_mergeFiles_congr {files' : FileStore Id} {r : Registry}
    (h : ∀ path ∈ paths, files'.read path = files.read path) :
    (mergeFiles files'.recorded r paths).run log = (mergeFiles files.recorded r paths).run log := by
  induction paths generalizing r log with
  | nil => rfl
  | cons path rest ih =>
    obtain ⟨hpath, hrest⟩ := List.forall_mem_cons.mp h
    have hfile : mergeFile files' r path = mergeFile files r path := by
      rw [mergeFile_eq, mergeFile_eq, loadFile_eq, loadFile_eq, described, described, hpath]
    rw [run_mergeFiles_cons, run_mergeFiles_cons, hfile]
    cases mergeFile files r path with
    | error e => rfl
    | ok r => exact ih hrest

theorem Collects.run_append (h : Collects files paths types) (rest : List String) :
    (mergeFiles files.recorded empty (paths ++ rest)).run [] =
      (mergeFiles files.recorded (registered types) rest).run paths := by
  obtain ⟨lists, hlists, rfl, hnames⟩ := h
  change (mergeFiles files.recorded (registered []) (paths ++ rest)).run [] =
    (mergeFiles files.recorded (registered ([] ++ lists.flatten)) rest).run ([] ++ paths)
  exact run_mergeFiles_append hlists hnames

/-- **A run has the outcome of its files.** -/
theorem run_mergeFiles_iff {result : Except DescriptionError Registry} {reads : List String} :
    (mergeFiles files.recorded empty paths).run [] = (result, reads) ↔
      Outcome files paths result reads := by
  have hrun : ∀ {result reads}, Outcome files paths result reads →
      (mergeFiles files.recorded empty paths).run [] = (result, reads) := by
    intro result reads h
    cases h with
    | loaded h =>
      have hpass := h.run_append []
      rw [List.append_nil] at hpass
      exact hpass
    | failed hpaths h hfault =>
      rw [hpaths, h.run_append, run_mergeFiles_cons, mergeFile_of_fault h.nodup hfault]
  refine ⟨fun h => ?_, hrun⟩
  obtain ⟨result', reads', houtcome⟩ := exists_outcome files paths
  obtain ⟨rfl, rfl⟩ := Prod.mk.inj ((hrun houtcome).symm.trans h)
  exact houtcome

/-! ### Listings -/

/-- **The names of description files** are those that end in one of three ways. -/
theorem isDescriptionFile_iff : isDescriptionFile name = true ↔ ∃ stem,
    name = stem ++ ".types.yaml" ∨ name = stem ++ ".types.yml" ∨ name = stem ++ ".types.json" := by
  have hsuffix : ∀ suffix : String, suffix.toList.isSuffixOf name.toList = true ↔
      ∃ stem, name = stem ++ suffix := by
    intro suffix
    rw [List.isSuffixOf_iff_suffix]
    constructor
    · rintro ⟨stem, h⟩
      refine ⟨String.ofList stem, String.ext ?_⟩
      rw [String.toList_append, String.toList_ofList, h]
    · rintro ⟨stem, rfl⟩
      rw [String.toList_append]
      exact List.suffix_append _ _
  simp only [isDescriptionFile, fileSuffixes, List.any_cons, List.any_nil, Bool.or_eq_true, hsuffix,
    Bool.false_eq_true, or_false, exists_or]

/-- Where a test holds of everything, everything is kept. -/
theorem filterM_eq_pure {α : Type} {m : Type → Type} [Monad m] [LawfulMonad m] {p : α → m Bool}
    {l : List α} (h : ∀ a ∈ l, p a = pure true) : l.filterM p = pure l := by
  have haux : ∀ kept : List α, l.filterAuxM p kept = pure (l.reverse ++ kept) := by
    induction l with
    | nil => exact fun _ => rfl
    | cons a rest ih =>
      obtain ⟨ha, hrest⟩ := List.forall_mem_cons.mp h
      intro kept
      rw [List.filterAuxM, ha, pure_bind]
      refine (ih hrest _).trans ?_
      simp
  rw [List.filterM, haux, pure_bind]
  simp

/-- **A directory is loaded** file by file, in the order of the names of its description files. -/
theorem loadDirectory_eq {m : Type → Type} [Monad m] [LawfulMonad m] {store : FileStore m}
    {names : List String} (hlist : store.list dir = pure (.ok names))
    (hfile : ∀ name ∈ names, store.isFile (FilePath.join dir name) = pure true) :
    loadDirectory store dir = mergeFiles store empty
      ((sortNames (names.filter isDescriptionFile)).map (FilePath.join dir)) := by
  have hfiles : ∀ path ∈ (sortNames (names.filter isDescriptionFile)).map (FilePath.join dir),
      store.isFile path = pure true := by
    intro path hpath
    obtain ⟨name, hname, rfl⟩ := List.mem_map.mp hpath
    rw [sortNames, List.mem_mergeSort] at hname
    exact hfile name (List.mem_of_mem_filter hname)
  rw [loadDirectory, hlist, pure_bind]
  simp only [filterM_eq_pure hfiles, pure_bind]

/-- **The names are put in order.** -/
theorem pairwise_sortNames (names : List String) : (sortNames names).Pairwise (· ≤ ·) := by
  have hle : ∀ a b : String, (!Text.before b a) = true ↔ a ≤ b := by
    intro a b
    rw [Bool.not_eq_true', Bool.eq_false_iff, ne_eq, Text.before_iff_lt, not_lt]
  have hsorted : (sortNames names).Pairwise fun a b => (!Text.before b a) = true := by
    refine List.pairwise_mergeSort (fun a b c hab hbc => ?_) (fun a b => ?_) names
    · exact (hle a c).mpr (((hle a b).mp hab).trans ((hle b c).mp hbc))
    · rw [Bool.or_eq_true, hle, hle]
      exact le_total a b
  exact hsorted.imp fun hab => (hle _ _).mp hab

/-- There is one way to put names in order. -/
theorem sortNames_eq {names ordered : List String} (hperm : ordered.Perm names)
    (hordered : ordered.Pairwise (· ≤ ·)) : sortNames names = ordered :=
  ((List.mergeSort_perm names _).trans hperm.symm).eq_of_pairwise
    (fun _ _ _ _ hab hba => le_antisymm hab hba) (pairwise_sortNames names) hordered

/-- **What a directory is loaded as.** The description files of a directory are those whose names
end in `.types.yaml`, `.types.yml` or `.types.json`; let them be put in order by their names. They
are loaded in turn, as told by `Outcome`, and no other file is read: they are read up to the first
that is at fault, whose error is the result, or else to the last, and the result is the registry of
all their types. One file that describes all these types would be loaded alike. It makes no
difference in which order the directory lists its files, nor what the others hold. -/
theorem directory_outcome {names ordered : List String} (h : files.Holds dir names)
    (hperm : ordered.Perm (names.filter isDescriptionFile)) (hordered : ordered.Pairwise (· ≤ ·)) :
    (∀ name, name ∈ ordered ↔ name ∈ names ∧ ∃ stem, name = stem ++ ".types.yaml" ∨
      name = stem ++ ".types.yml" ∨ name = stem ++ ".types.json") ∧
    (∀ result reads, (loadDirectory files.recorded dir).run [] = (result, reads) ↔
      Outcome files (ordered.map (FilePath.join dir)) result reads) ∧
    (∀ result, loadDirectory files dir = result ↔
      ∃ reads, Outcome files (ordered.map (FilePath.join dir)) result reads) ∧
    (∀ types text origin, Collects files (ordered.map (FilePath.join dir)) types →
      text.decode text.readTypes = .ok types →
        loadDirectory files dir = ofSource text origin) ∧
    ∀ (files' : FileStore Id) (names' : List String), files'.Holds dir names' →
      names'.Perm names →
      (∀ name ∈ names, isDescriptionFile name = true →
        files'.read (FilePath.join dir name) = files.read (FilePath.join dir name)) →
      (loadDirectory files'.recorded dir).run [] = (loadDirectory files.recorded dir).run [] := by
  have hrun : ∀ {store : FileStore Id} {listed : List String}, store.Holds dir listed →
      listed.Perm names → (loadDirectory store.recorded dir).run [] =
        (mergeFiles store.recorded empty (ordered.map (FilePath.join dir))).run [] := by
    intro store listed hstore hlisted
    rw [loadDirectory_eq (congrArg pure hstore.list) fun name hname =>
      congrArg pure (hstore.isFile name hname),
      sortNames_eq (hperm.trans (hlisted.filter _).symm) hordered]
  have hload : loadDirectory files dir =
      ((loadDirectory files.recorded dir).run []).1 := by
    rw [hrun h (List.Perm.refl _), fst_run_mergeFiles, loadDirectory_eq h.list h.isFile,
      sortNames_eq hperm hordered]
  have houtcome : ∀ result reads, (loadDirectory files.recorded dir).run [] = (result, reads) ↔
      Outcome files (ordered.map (FilePath.join dir)) result reads := by
    intro result reads
    rw [hrun h (List.Perm.refl _), run_mergeFiles_iff]
  refine ⟨fun name => ?_, houtcome, fun result => ?_, fun types text origin htypes hdecode => ?_,
    fun files' names' h' hnames hread => ?_⟩
  · rw [hperm.mem_iff, List.mem_filter, isDescriptionFile_iff]
  · rw [hload]
    constructor
    · rintro rfl
      exact ⟨_, (houtcome _ _).mp rfl⟩
    · rintro ⟨reads, hreads⟩
      rw [(houtcome result reads).mpr hreads]
  · rw [hload, (houtcome _ _).mpr (.loaded htypes)]
    exact (ofSource_eq_ok_iff.mpr ⟨types, hdecode, htypes.nodup, rfl⟩).symm
  · rw [hrun h' hnames, hrun h (List.Perm.refl _)]
    refine run_mergeFiles_congr fun path hpath => ?_
    obtain ⟨name, hname, rfl⟩ := List.mem_map.mp hpath
    obtain ⟨hmem, hdescription⟩ := List.mem_filter.mp (hperm.mem_iff.mp hname)
    exact hread name hmem hdescription

/-- A directory of two description files, one in each format, and a file that is none. -/
def shelf : FileStore Id where
  read path :=
    if path == "types/a.types.yaml" then .ok "types:\n- name: Author\n"
    else if path == "types/b.types.json" then .ok (describe [⟨"Book", []⟩, ⟨"Shelf", []⟩]).text
    else .error .notText
  list _ := .ok ["b.types.json", "notes", "a.types.yaml"]
  isDirectory path := path == "types"
  isFile path := path != "types"

theorem described_shelf :
    described shelf "types/a.types.yaml" = .ok [⟨"Author", []⟩] ∧
      described shelf "types/b.types.json" = .ok [⟨"Book", []⟩, ⟨"Shelf", []⟩] :=
  ⟨rfl,
    described_describe rfl (by decide) (by simp) (by simp [AllAnnotations])
      (by simp [AllAnnotations])⟩

theorem directory_outcome_shelf :
    shelf.Holds "types" ["b.types.json", "notes", "a.types.yaml"] ∧
      (loadDirectory shelf.recorded "types").run [] =
        (.ok (registered [⟨"Author", []⟩, ⟨"Book", []⟩, ⟨"Shelf", []⟩]),
          ["types/a.types.yaml", "types/b.types.json"]) := by
  have hfiles : ∀ name ∈ ["b.types.json", "notes", "a.types.yaml"],
      (FilePath.join "types" name != "types") = true := by decide
  have hholds : shelf.Holds "types" ["b.types.json", "notes", "a.types.yaml"] := ⟨rfl, hfiles⟩
  have hperm : ["a.types.yaml", "b.types.json"].Perm
      (["b.types.json", "notes", "a.types.yaml"].filter isDescriptionFile) := by
    decide
  have hordered : ["a.types.yaml", "b.types.json"].Pairwise (· ≤ ·) := by decide
  have hcollects : Collects shelf (["a.types.yaml", "b.types.json"].map (FilePath.join "types"))
      [⟨"Author", []⟩, ⟨"Book", []⟩, ⟨"Shelf", []⟩] :=
    ⟨[[⟨"Author", []⟩], [⟨"Book", []⟩, ⟨"Shelf", []⟩]],
      .cons described_shelf.1 (.cons described_shelf.2 .nil), rfl, by decide⟩
  obtain ⟨-, houtcome, -⟩ := directory_outcome hholds hperm hordered
  exact ⟨hholds, (houtcome _ _).mpr (.loaded hcollects)⟩

end Registry

end Conformance
