import ShapeCatalog.Files.Memory
import ShapeCatalog.Proofs.Outcome
import ShapeCatalog.Proofs.PathOrder

/-!
What discovery finds.  In a tree of directories in which all can be read, the files found are those
that are reached through directories which are searched and are kept by their name, each once, in
the order of their paths: siblings are sorted at every level, and paths that part at a level are
ordered by their names there.
-/

namespace ShapeCatalog

namespace Listing

/-- Whether a list of names leads to a file. -/
inductive HasFile : Listing → List String → Prop where
  | here : HasFile .file []
  | inside {entries : List (String × Listing)} {name : String} {inner : Listing}
      {names : List String} (entry : (name, inner) ∈ entries) (file : HasFile inner names) :
      HasFile (.directory entries) (name :: names)

/-- Whether all directories can be read and the entries of each are told apart by names that can
stand for entries. -/
inductive IsTree : Listing → Prop where
  | file : IsTree .file
  | directory {entries : List (String × Listing)}
      (names : ∀ entry ∈ entries, Path.IsEntryName entry.1) (nodup : (Entries.keys entries).Nodup)
      (inner : ∀ entry ∈ entries, IsTree entry.2) : IsTree (.directory entries)

theorem hasFile_file_iff {names : List String} : HasFile .file names ↔ names = [] := by
  constructor
  · rintro ⟨⟩
    rfl
  · rintro rfl
    exact .here

theorem hasFile_directory_iff {entries : List (String × Listing)} {names : List String} :
    HasFile (.directory entries) names ↔
      ∃ entry ∈ entries, ∃ rest, names = entry.1 :: rest ∧ HasFile entry.2 rest := by
  constructor
  · rintro (_ | ⟨hentry, hfile⟩)
    exact ⟨_, hentry, _, rfl, hfile⟩
  · rintro ⟨⟨name, inner⟩, hentry, rest, rfl, hfile⟩
    exact .inside hentry hfile

/-- All names on the way to a file can stand for entries. -/
theorem IsTree.isEntryName_of_hasFile {listing : Listing} {names : List String}
    (h : listing.IsTree) (hfile : listing.HasFile names) :
    ∀ name ∈ names, Path.IsEntryName name := by
  induction hfile with
  | here => exact List.forall_mem_nil _
  | inside hentry _ ih =>
      cases h with
      | directory hnames _ hinner =>
          exact List.forall_mem_cons.mpr ⟨hnames _ hentry, ih (hinner _ hentry)⟩

end Listing

namespace Discovery

theorem isInside_iff {part text : List Char} : isInside part text = true ↔ part <:+: text := by
  induction text with
  | nil => rw [isInside, List.isEmpty_iff, List.infix_nil]
  | cons c rest ih =>
      rw [isInside, Bool.or_eq_true, List.isPrefixOf_iff_prefix, ih, List.infix_cons_iff]

/-- Whether the names that lead to a file are those of directories that are searched, and last that
of a file that is kept. -/
def keepsPath (filter : Option (List String)) : List String → Bool
  | [] => false
  | [file] => keepsFile filter file
  | directory :: rest => entersDirectory directory && keepsPath filter rest

theorem keepsPath_cons {filter : Option (List String)} {directory : String} {rest : List String}
    (h : rest ≠ []) :
    keepsPath filter (directory :: rest)
      = (entersDirectory directory && keepsPath filter rest) := by
  cases rest with
  | nil => exact absurd rfl h
  | cons _ _ => rfl

theorem keepsPath_append_singleton {filter : Option (List String)} {directories : List String}
    {file : String} : keepsPath filter (directories ++ [file]) = true ↔
      (∀ directory ∈ directories, entersDirectory directory = true) ∧
        keepsFile filter file = true := by
  induction directories with
  | nil => simp [keepsPath]
  | cons directory rest ih =>
      have hne : rest ++ [file] ≠ [] := List.concat_ne_nil file rest
      rw [List.cons_append, keepsPath_cons hne, Bool.and_eq_true, ih, List.forall_mem_cons,
        and_assoc]

/-- What is found in an entry of a directory. -/
def entryFinding (filter : Option (List String)) (entry : String × Listing) : Finding :=
  match entry with
  | (name, .file) => .ok (if keepsFile filter name then [[name]] else [])
  | (name, inner) => if entersDirectory name then (paths filter inner).below name else .ok []

theorem entryPaths_eq_map (filter : Option (List String)) (entries : List (String × Listing)) :
    entryPaths filter entries = entries.map fun entry => (entry.1, entryFinding filter entry) := by
  induction entries with
  | nil => rfl
  | cons entry rest ih =>
      obtain ⟨name, inner⟩ := entry
      rw [List.map_cons, ← ih]
      cases inner <;> rfl

/-- The files found are those that are there and are kept, in the order of the names that lead to
them. -/
structure Exact (filter : Option (List String)) (listing : Listing) (found : List (List String)) :
    Prop where
  mem_iff : ∀ names, names ∈ found ↔ listing.HasFile names ∧ keepsPath filter names = true
  increasing : found.Pairwise (· < ·)

/-- The files found in an entry, seen from the directory of the entry. -/
structure EntryExact (filter : Option (List String)) (entry : String × Listing)
    (found : List (List String)) : Prop where
  mem_iff : ∀ names, names ∈ found ↔ ∃ rest, names = entry.1 :: rest ∧
    entry.2.HasFile rest ∧ keepsPath filter names = true
  increasing : found.Pairwise (· < ·)

/-- The files found in an entry are those found in what it stands for, below its name. -/
theorem exists_entryFinding {filter : Option (List String)} {entry : String × Listing}
    (hinner : ∃ found, paths filter entry.2 = .ok found ∧ Exact filter entry.2 found) :
    ∃ found, entryFinding filter entry = .ok found ∧ EntryExact filter entry found := by
  obtain ⟨name, inner⟩ := entry
  obtain ⟨found, hfound, hmem, hincreasing⟩ := hinner
  cases inner with
  | unreadable fault => cases hfound
  | file =>
      refine ⟨_, rfl, fun names => ?_, ?_⟩
      · simp only [Listing.hasFile_file_iff]
        constructor
        · intro h
          split at h
          · next hkept =>
              obtain rfl := List.mem_singleton.mp h
              exact ⟨[], rfl, rfl, hkept⟩
          · cases h
        · rintro ⟨_, rfl, rfl, hkept⟩
          rw [keepsPath] at hkept
          rw [if_pos hkept]
          exact List.mem_singleton_self _
      · split
        · exact List.pairwise_singleton _ _
        · exact List.Pairwise.nil
  | directory entries =>
      -- Below a directory a file has at least one more name.
      have hkeeps : ∀ rest, (Listing.directory entries).HasFile rest →
          keepsPath filter (name :: rest) = (entersDirectory name && keepsPath filter rest) := by
        intro rest hfile
        refine keepsPath_cons ?_
        rintro rfl
        cases hfile
      by_cases henters : entersDirectory name = true
      · refine ⟨found.map (name :: ·), ?_, fun names => ?_, ?_⟩
        · rw [entryFinding, if_pos henters, hfound, Finding.below]
          exact nofun
        · rw [List.mem_map]
          constructor
          · rintro ⟨rest, hrest, rfl⟩
            obtain ⟨hfile, hkept⟩ := (hmem rest).mp hrest
            exact ⟨rest, rfl, hfile, by rw [hkeeps rest hfile, henters, hkept]; rfl⟩
          · rintro ⟨rest, rfl, hfile, hkept⟩
            rw [hkeeps rest hfile, henters, Bool.true_and] at hkept
            exact ⟨rest, (hmem rest).mpr ⟨hfile, hkept⟩, rfl⟩
        · rw [List.pairwise_map]
          exact hincreasing.imp fun hlt => List.cons_lt_cons_iff.mpr (Or.inr ⟨rfl, hlt⟩)
      · refine ⟨[], ?_, fun names => ?_, List.Pairwise.nil⟩
        · rw [entryFinding, if_neg henters]
          exact nofun
        · constructor
          · rintro ⟨⟩
          · rintro ⟨rest, rfl, hfile, hkept⟩
            rw [hkeeps rest hfile, Bool.and_eq_true] at hkept
            exact absurd hkept.1 henters

def byName (entries : List (String × Listing)) : List (String × Listing) :=
  entries.mergeSort fun a b => a.1 ≤ b.1

theorem paths_directory (filter : Option (List String)) (entries : List (String × Listing)) :
    paths filter (.directory entries)
      = ((byName entries).mapM (entryFinding filter)).map List.flatten := by
  have hsort : (byName entries).map (fun entry => (entry.1, entryFinding filter entry))
      = (entries.map fun entry => (entry.1, entryFinding filter entry)).mergeSort
        (fun a b => a.1 ≤ b.1) :=
    List.map_mergeSort fun _ _ _ _ => rfl
  rw [paths, entryPaths_eq_map, ← hsort, List.mapM_map]
  rfl

/-- Entries with names of their own go strictly up when they are sorted. -/
theorem sorted_byName {entries : List (String × Listing)} (h : (Entries.keys entries).Nodup) :
    (byName entries).Pairwise fun a b => a.1 < b.1 := by
  have hle : (byName entries).Pairwise fun a b => decide (a.1 ≤ b.1) = true := by
    refine List.pairwise_mergeSort ?_ ?_ entries
    · intro a b c hab hbc
      exact decide_eq_true (String.le_trans (of_decide_eq_true hab) (of_decide_eq_true hbc))
    · intro a b
      simpa using String.le_total a.1 b.1
  have hne : (byName entries).Pairwise fun a b => a.1 ≠ b.1 :=
    List.pairwise_map.mp (((List.mergeSort_perm entries _).map Prod.fst).nodup_iff.mpr h)
  refine (hle.and hne).imp fun hab => ?_
  apply Decidable.byContradiction
  intro hnot
  exact hab.2 (String.le_antisymm (of_decide_eq_true hab.1) (String.not_lt.mp hnot))

/-- What is found in a tree. -/
theorem exists_paths (filter : Option (List String)) {listing : Listing} (h : listing.IsTree) :
    ∃ found, paths filter listing = .ok found ∧ Exact filter listing found := by
  induction h with
  | file =>
      refine ⟨[], rfl, fun names => ?_, List.Pairwise.nil⟩
      rw [Listing.hasFile_file_iff]
      constructor
      · rintro ⟨⟩
      · rintro ⟨rfl, hkept⟩
        cases hkept
  | @directory entries hnames hnodup _ ih =>
      have hentries : ∀ entry ∈ entries, ∃ found, entryFinding filter entry = .ok found ∧
          EntryExact filter entry found := fun entry hentry => exists_entryFinding (ih entry hentry)
      choose! found hfound hexact using hentries
      have hsorted := sorted_byName hnodup
      have hperm : (byName entries).Perm entries := List.mergeSort_perm entries _
      refine ⟨(byName entries).flatMap found, ?_, fun names => ?_, ?_⟩
      · rw [paths_directory]
        have hall : (byName entries).mapM (entryFinding filter)
            = .ok ((byName entries).map found) := by
          rw [mapM_eq_ok, List.forall₂_map_right_iff, List.forall₂_same]
          exact fun entry hentry => hfound entry (hperm.mem_iff.mp hentry)
        rw [hall, Except.map, List.flatMap]
      · simp only [List.mem_flatMap, Listing.hasFile_directory_iff, hperm.mem_iff]
        constructor
        · rintro ⟨entry, hentry, hnames⟩
          obtain ⟨rest, rfl, hfile, hkept⟩ := ((hexact entry hentry).mem_iff names).mp hnames
          exact ⟨⟨entry, hentry, rest, rfl, hfile⟩, hkept⟩
        · rintro ⟨⟨entry, hentry, rest, rfl, hfile⟩, hkept⟩
          exact ⟨entry, hentry, ((hexact entry hentry).mem_iff _).mpr ⟨rest, rfl, hfile, hkept⟩⟩
      · rw [List.pairwise_flatMap]
        refine ⟨fun entry hentry => (hexact entry (hperm.mem_iff.mp hentry)).increasing, ?_⟩
        refine hsorted.imp_of_mem ?_
        intro first second hfirst hsecond hlt names hnames names' hnames'
        obtain ⟨rest, rfl, -⟩ :=
          ((hexact first (hperm.mem_iff.mp hfirst)).mem_iff names).mp hnames
        obtain ⟨rest', rfl, -⟩ :=
          ((hexact second (hperm.mem_iff.mp hsecond)).mem_iff names').mp hnames'
        exact List.cons_lt_cons_iff.mpr (Or.inl hlt)

/-- A file is selected by its name and the names of the directories that lead to it: none of them is
hidden, no directory holds tests, the extension is `json`, and the short name has a text of the
filter in it if there is a filter. -/
structure Selects (filter : Option (List String)) (listing : Listing) (directories : List String)
    (file : String) : Prop where
  isFile : listing.HasFile (directories ++ [file])
  visible : ∀ name ∈ directories ++ [file], ¬['.'] <+: name.toList
  untested : ∀ directory ∈ directories, ¬"__test__".toList <:+: directory.toList
  extension : Path.extension? file = some "json"
  kept : ∀ parts, filter = some parts → ∃ part ∈ parts, part.toList <:+: (Path.stem file).toList

theorem isHidden_iff {name : String} : isHidden name = true ↔ ['.'] <+: name.toList := by
  rw [isHidden, decide_eq_true_eq]
  cases name.toList with
  | nil => simp
  | cons c rest => simp [eq_comm]

theorem entersDirectory_iff {name : String} : entersDirectory name = true ↔
    ¬['.'] <+: name.toList ∧ ¬"__test__".toList <:+: name.toList := by
  rw [entersDirectory, holdsTests, Bool.and_eq_true, Bool.not_eq_true', Bool.not_eq_true',
    ← Bool.not_eq_true, ← Bool.not_eq_true, isHidden_iff, isInside_iff]

theorem keepsFile_iff {filter : Option (List String)} {name : String} :
    keepsFile filter name = true ↔ ¬['.'] <+: name.toList ∧ Path.extension? name = some "json" ∧
      ∀ parts, filter = some parts → ∃ part ∈ parts, part.toList <:+: (Path.stem name).toList := by
  unfold keepsFile
  rw [Bool.and_eq_true, Bool.and_eq_true, Bool.not_eq_true', ← Bool.not_eq_true, isHidden_iff,
    beq_iff_eq, and_assoc]
  cases filter with
  | none => simp
  | some parts => simp [isInside_iff]

theorem keepsPath_iff_selects {filter : Option (List String)} {listing : Listing}
    {directories : List String} {file : String} :
    listing.HasFile (directories ++ [file]) ∧ keepsPath filter (directories ++ [file]) = true ↔
      Selects filter listing directories file := by
  simp only [keepsPath_append_singleton, entersDirectory_iff, keepsFile_iff]
  constructor
  · rintro ⟨hfile, henters, hvisible, hextension, hkept⟩
    refine ⟨hfile, ?_, fun directory hmem => (henters directory hmem).2, hextension, hkept⟩
    rw [List.forall_mem_append, List.forall_mem_singleton]
    exact ⟨fun directory hmem => (henters directory hmem).1, hvisible⟩
  · rintro ⟨hfile, hvisible, huntested, hextension, hkept⟩
    rw [List.forall_mem_append, List.forall_mem_singleton] at hvisible
    exact ⟨hfile, fun directory hmem => ⟨hvisible.1 directory hmem, huntested directory hmem⟩,
      hvisible.2, hextension, hkept⟩

/-- Every file found is a selected file, and all names that lead to it can stand for entries. -/
theorem Exact.selects {filter : Option (List String)} {listing : Listing}
    {found : List (List String)} (h : Exact filter listing found) (htree : listing.IsTree)
    {names : List String} (hnames : names ∈ found) :
    (∀ name ∈ names, Path.IsEntryName name) ∧
      ∃ directories file, names = directories ++ [file] ∧
        Selects filter listing directories file := by
  obtain ⟨hfile, hkept⟩ := (h.mem_iff names).mp hnames
  refine ⟨htree.isEntryName_of_hasFile hfile, ?_⟩
  rcases List.eq_nil_or_concat' names with rfl | ⟨directories, file, rfl⟩
  · cases hkept
  · exact ⟨directories, file, rfl, keepsPath_iff_selects.mp ⟨hfile, hkept⟩⟩

end Discovery

namespace FileAccess

variable {σ : Type} {files : FileAccess (StateM σ)} {root : String} {before after : σ}

theorem run_discover {filter : Option (List String)} {listing : Listing}
    (hroot : (files.directory? root).run before = (some listing, after)) :
    (files.discover root filter).run.run before
      = (Discovery.fullPaths filter root listing, after) := by
  simp only [discover, ExceptT.run_bind, ExceptT.run_liftM, bind_map_left, StateT.run_bind, hroot]
  rfl

/-- Wherever a directory is seen whose tree can be read, discovery gives the paths of the selected
files below it and no others, each once and in the order of the bytes of their components.  The
short name of each is what its last component has before the extension, and is not empty. -/
theorem discover_exact {entries : List (String × Listing)}
    (hroot : (files.directory? root).run before = (some (.directory entries), after))
    (htree : (Listing.directory entries).IsTree) (filter : Option (List String)) :
    ∃ found, (files.discover root filter).run.run before = (.ok found, after) ∧
      (∀ directories file, (∀ name ∈ directories ++ [file], Path.IsEntryName name) →
        ((directories ++ [file]).foldl Path.join root ∈ found ↔
          Discovery.Selects filter (.directory entries) directories file)) ∧
      found.Nodup ∧
      found.Pairwise (fun a b => Path.componentBytes a < Path.componentBytes b) ∧
      ∀ path ∈ found, ∃ directories file,
        (∀ name ∈ directories ++ [file], Path.IsEntryName name) ∧
        path = (directories ++ [file]).foldl Path.join root ∧
        Path.shortName? path = some (Path.stem file) ∧
        Path.stem file ≠ "" ∧ file = Path.stem file ++ ".json" := by
  obtain ⟨found, hfound, hmem, hincreasing⟩ := Discovery.exists_paths filter htree
  have hexact : Discovery.Exact filter (.directory entries) found := ⟨hmem, hincreasing⟩
  have hbytes : (found.map fun names => names.foldl Path.join root).Pairwise fun a b =>
      Path.componentBytes a < Path.componentBytes b := by
    rw [List.pairwise_map]
    refine hincreasing.imp_of_mem fun {names others} hnames hothers hlt => ?_
    obtain ⟨hentries, directories, file, heq, -⟩ := hexact.selects htree hnames
    refine Path.componentBytes_foldl_join_lt ?_ hentries (hexact.selects htree hothers).1 hlt
    rw [heq]
    exact List.concat_ne_nil file directories
  refine ⟨found.map fun names => names.foldl Path.join root, ?_, ?_, ?_, hbytes, ?_⟩
  · rw [run_discover hroot, Discovery.fullPaths, hfound]
  · intro directories file hentries
    rw [← Discovery.keepsPath_iff_selects, ← hmem, List.mem_map]
    constructor
    · rintro ⟨names, hnames, heq⟩
      obtain ⟨hentries', directories', file', rfl, -⟩ := hexact.selects htree hnames
      have hsame := Path.foldl_join_inj (List.concat_ne_nil file' directories')
        (List.concat_ne_nil file directories) hentries' hentries heq
      rwa [← hsame]
    · exact fun hnames => ⟨_, hnames, rfl⟩
  · refine hbytes.imp fun hlt => ?_
    rintro rfl
    exact List.lt_irrefl _ hlt
  · intro path hpath
    obtain ⟨names, hnames, rfl⟩ := List.mem_map.mp hpath
    obtain ⟨hentries, directories, file, rfl, hselects⟩ := hexact.selects htree hnames
    obtain ⟨hstem, hname⟩ := Path.eq_stem_append_of_extension? hselects.extension
    refine ⟨directories, file, hentries, rfl, Path.shortName?_foldl_join hentries, hstem, ?_⟩
    rwa [String.append_assoc] at hname

end FileAccess

namespace Memory

/-- A directory with a file beside a directory of the same stem, a hidden directory, a
directory of tests, a directory whose name has the extension, and a file that is named like a
directory of tests. -/
def scattered : Memory :=
  .directory [("", .directory [("", .directory [("m", .directory [
    ("a.json", .file .empty),
    ("a", .directory [("x.json", .file .empty), (".json", .file .empty)]),
    ("sub.json", .directory [("__test__.json", .file .empty), ("notes.txt", .file .empty)]),
    (".git", .directory [("x.json", .file .empty)]),
    ("old__test__", .directory [("x.json", .file .empty)])])])])]

def scatteredEntries : List (String × Listing) :=
  [("a.json", .file),
    ("a", .directory [("x.json", .file), (".json", .file)]),
    ("sub.json", .directory [("__test__.json", .file), ("notes.txt", .file)]),
    (".git", .directory [("x.json", .file)]),
    ("old__test__", .directory [("x.json", .file)])]

theorem directory?_scattered :
    (access.directory? "m").run scattered = (some (.directory scatteredEntries), scattered) :=
  rfl

theorem isTree_scatteredEntries : (Listing.directory scatteredEntries).IsTree := by
  have hfiles : ∀ {entries : List (String × Listing)}, (∀ entry ∈ entries, entry.2 = .file) →
      ∀ entry ∈ entries, entry.2.IsTree := by
    intro entries hall entry hentry
    rw [hall entry hentry]
    exact .file
  refine .directory (by decide) (by decide) ?_
  simp only [scatteredEntries, List.forall_mem_cons]
  refine ⟨.file, ?_, ?_, ?_, ?_, List.forall_mem_nil _⟩ <;>
    exact .directory (by decide) (by decide) (hfiles (by simp))

/-- With a filter, a file named like a directory of tests is found below a directory that is named
like a file; what lies in the hidden directory and in that of tests is not found. -/
theorem discover_scattered :
    (access.directory? "m").run scattered = (some (.directory scatteredEntries), scattered) ∧
    (Listing.directory scatteredEntries).IsTree ∧
    ∃ found, (access.discover "m" (some ["x", "test"])).run.run scattered
        = (.ok found, scattered) ∧
      "m/a/x.json" ∈ found ∧ "m/sub.json/__test__.json" ∈ found ∧
      "m/.git/x.json" ∉ found ∧ "m/old__test__/x.json" ∉ found := by
  obtain ⟨found, hrun, hmem, -⟩ := FileAccess.discover_exact directory?_scattered
    isTree_scatteredEntries (some ["x", "test"])
  refine ⟨directory?_scattered, isTree_scatteredEntries, found, hrun, ?_, ?_, ?_, ?_⟩
  · refine (hmem ["a"] "x.json" (by decide)).mpr ⟨?_, by decide, by decide, by decide, ?_⟩
    · exact .inside (.tail _ (.head _)) (.inside (.head _) .here)
    · rintro _ ⟨⟩
      exact ⟨"x", by decide, by decide⟩
  · refine (hmem ["sub.json"] "__test__.json" (by decide)).mpr
      ⟨?_, by decide, by decide, by decide, ?_⟩
    · exact .inside (.tail _ (.tail _ (.head _))) (.inside (.head _) .here)
    · rintro _ ⟨⟩
      exact ⟨"test", by decide, by decide⟩
  · exact fun h => ((hmem [".git"] "x.json" (by decide)).mp h).visible ".git"
      (by decide) (by decide)
  · exact fun h => ((hmem ["old__test__"] "x.json" (by decide)).mp h).untested "old__test__"
      (by decide) (by decide)

end Memory

end ShapeCatalog
