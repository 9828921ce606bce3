import Mathlib.Data.List.Infix
import Mathlib.Tactic.SplitIfs
import ShapeCatalog.Files.Path

/-!
Paths below a directory.  A name that stands for an entry of a directory becomes the last
component of the path that it is joined to, so that the paths below a directory are told apart,
and ordered, by the names that lead to them.  Names are ordered by their code points, which is the
order of their bytes.
-/

namespace ShapeCatalog

def utf8Bytes (text : String) : List UInt8 :=
  text.toUTF8.data.toList

theorem utf8Bytes_eq_flatMap (text : String) :
    utf8Bytes text = text.toList.flatMap String.utf8EncodeChar := by
  rw [utf8Bytes, String.toUTF8, ← String.ofList_toList (s := text), String.toByteArray_ofList,
    List.utf8Encode, List.toList_data_toByteArray, String.toList_ofList]

/-- Bytes given as numbers compare as the numbers do. -/
theorem ofNat_cons_lt_iff {a b : Nat} (ha : a < 256) (hb : b < 256) {as bs : List UInt8} :
    UInt8.ofNat a :: as < UInt8.ofNat b :: bs ↔ a < b ∨ a = b ∧ as < bs := by
  rw [List.cons_lt_cons_iff, UInt8.lt_iff_toNat_lt, ← UInt8.toNat_inj, UInt8.toNat_ofNat',
    UInt8.toNat_ofNat', Nat.mod_eq_of_lt ha, Nat.mod_eq_of_lt hb]

/-- Characters compare as their bytes do, whatever follows: the first byte tells how many there are,
and each of the others holds six more bits. -/
theorem utf8EncodeChar_append_lt {c d : Char} (h : c < d) (as bs : List UInt8) :
    String.utf8EncodeChar c ++ as < String.utf8EncodeChar d ++ bs := by
  have hlt : c.val.toNat < d.val.toNat := h
  have hbound : d.val.toNat < 0x110000 :=
    d.valid.elim (fun hlow => Nat.lt_trans hlow (by decide)) And.right
  have htwo : ∀ n, n / 4096 = n / 64 / 64 := by omega
  have hthree : ∀ n, n / 262144 = n / 64 / 64 / 64 := by omega
  unfold String.utf8EncodeChar
  generalize c.val.toNat = m at *
  generalize d.val.toNat = n at *
  simp only [htwo, hthree]
  split_ifs <;>
    simp (disch := omega) only [List.cons_append, List.nil_append, ofNat_cons_lt_iff] <;> omega

theorem flatMap_utf8EncodeChar_lt {as bs : List Char} (h : as < bs) :
    as.flatMap String.utf8EncodeChar < bs.flatMap String.utf8EncodeChar := by
  induction List.lex_lt.mpr h with
  | @nil first rest =>
      obtain ⟨byte, others, hbytes⟩ := List.exists_cons_of_ne_nil
        (String.utf8EncodeChar_ne_nil (c := first))
      rw [List.flatMap_cons, hbytes]
      exact List.nil_lt_cons _ _
  | rel hlt => 
      rw [List.flatMap_cons, List.flatMap_cons]
      exact utf8EncodeChar_append_lt hlt _ _
  | cons hrest ih =>
      rw [List.flatMap_cons, List.flatMap_cons]
      exact List.append_left_lt (ih (List.lex_lt.mp hrest))

/-- The order of texts is the order of their bytes. -/
theorem utf8Bytes_lt {a b : String} (h : a < b) : utf8Bytes a < utf8Bytes b := by
  rw [utf8Bytes_eq_flatMap, utf8Bytes_eq_flatMap]
  exact flatMap_utf8EncodeChar_lt (String.lt_iff.mp h)

namespace Path

theorem splitAt_ne_nil (mark : Char) (text : List Char) : splitAt mark text ≠ [] := by
  cases text with
  | nil => exact List.cons_ne_nil _ _
  | cons c rest =>
      rw [splitAt]
      split
      · exact List.cons_ne_nil _ _
      · split <;> exact List.cons_ne_nil _ _

/-- A text is split at a mark into what the parts before and after it are split into. -/
theorem splitAt_append_cons (mark : Char) (before after : List Char) :
    splitAt mark (before ++ mark :: after) = splitAt mark before ++ splitAt mark after := by
  induction before with
  | nil =>
      obtain ⟨first, others, hsplit⟩ := List.exists_cons_of_ne_nil (splitAt_ne_nil mark after)
      rw [List.nil_append, splitAt, splitAt, hsplit]
      simp
  | cons c rest ih =>
      obtain ⟨first, others, hsplit⟩ := List.exists_cons_of_ne_nil (splitAt_ne_nil mark rest)
      rw [List.cons_append, splitAt, ih, hsplit, splitAt, hsplit]
      simp only [List.cons_append]
      split <;> rfl

theorem splitAt_of_not_mem {mark : Char} {text : List Char} (h : mark ∉ text) :
    splitAt mark text = [text] := by
  induction text with
  | nil => rfl
  | cons c rest ih =>
      rw [List.mem_cons, not_or] at h
      rw [splitAt, ih h.2]
      exact if_neg (Ne.symm h.1)

theorem segments_append_slash (directory rest : String) :
    segments (directory ++ "/" ++ rest) = segments directory ++ segments rest := by
  have hsplit := splitAt_append_cons '/' directory.toList rest.toList
  simpa [segments] using congrArg (List.map String.ofList) hsplit

/-- Whether a name can stand for an entry of a directory. -/
structure IsEntryName (name : String) : Prop where
  no_slash : '/' ∉ name.toList
  not_idle : isIdle name = false
  not_parent : name ≠ ".."

instance (name : String) : Decidable (IsEntryName name) :=
  decidable_of_iff ('/' ∉ name.toList ∧ isIdle name = false ∧ name ≠ "..")
    ⟨fun ⟨h1, h2, h3⟩ => ⟨h1, h2, h3⟩, fun ⟨h1, h2, h3⟩ => ⟨h1, h2, h3⟩⟩

theorem IsEntryName.segments_eq {name : String} (h : IsEntryName name) :
    segments name = [name] := by
  rw [segments, splitAt_of_not_mem h.no_slash, List.map_singleton, String.ofList_toList]

/-- The components of a path are its first segment and those of the others that say something. -/
theorem components_eq {path first : String} {rest : List String} (hpath : path ≠ "")
    (h : segments path = first :: rest) :
    components path = first :: rest.filter fun segment => !isIdle segment := by
  have habsolute : first = "" → isAbsolute path = true := by
    rintro rfl
    obtain ⟨c, others, hlist⟩ := List.exists_cons_of_ne_nil (mt String.toList_eq_nil_iff.mp hpath)
    obtain ⟨part, parts, hsplit⟩ := List.exists_cons_of_ne_nil (splitAt_ne_nil '/' others)
    rw [segments, hlist, splitAt, hsplit] at h
    by_cases hc : c = '/'
    · rw [isAbsolute, hlist, hc]
      rfl
    · simp [hc] at h
  rw [components, h]
  by_cases hfirst : first = ""
  · simp [hfirst, habsolute hfirst]
  · simp [hfirst]

theorem components_append_slash {start first last : String} {rest : List String}
    (hstart : segments start = first :: rest) (hlast : segments last = [last]) :
    components (start ++ "/" ++ last) = first :: (rest ++ [last]).filter (!isIdle ·) := by
  refine components_eq ?_ ?_
  · simp
  · rw [segments_append_slash, hstart, hlast, List.cons_append]

theorem exists_segments_eq_cons (path : String) : ∃ first rest, segments path = first :: rest :=
  List.exists_cons_of_ne_nil (mt List.map_eq_nil_iff.mp (splitAt_ne_nil '/' path.toList))

/-- The name of an entry is the last component of its path. -/
theorem components_join {directory name : String} (hdirectory : directory ≠ "")
    (hname : IsEntryName name) :
    components (join directory name) = components directory ++ [name] := by
  have hkept : [name].filter (!isIdle ·) = [name] := by simp [hname.not_idle]
  rw [join]
  split
  · next hslash =>
      obtain ⟨start, hlist⟩ := List.getLast?_eq_some_iff.mp hslash
      have hends : directory = String.ofList start ++ "/" ++ "" := by
        apply String.toList_injective
        simp [hlist]
      have hpath : directory ++ name = String.ofList start ++ "/" ++ name := by
        rw [hends, String.append_empty]
      obtain ⟨first, rest, hstart⟩ := exists_segments_eq_cons (String.ofList start)
      rw [hpath, components_append_slash hstart hname.segments_eq, hends,
        components_append_slash hstart rfl, List.filter_append, List.filter_append, hkept]
      simp [isIdle]
  · obtain ⟨first, rest, hsegments⟩ := exists_segments_eq_cons directory
    rw [components_append_slash hsegments hname.segments_eq, components_eq hdirectory hsegments,
      List.filter_append, hkept, List.cons_append]

theorem join_ne_empty (directory name : String) (hname : IsEntryName name) :
    join directory name ≠ "" := by
  have hne : name ≠ "" := by
    rintro rfl
    exact absurd hname.not_idle (by decide)
  rw [join]
  split <;> simp [hne]

/-- The names that lead to a path below a directory are its last components. -/
theorem components_foldl_join {directory : String} {names : List String}
    (hdirectory : directory ≠ "") (hnames : ∀ name ∈ names, IsEntryName name) :
    components (names.foldl join directory) = components directory ++ names := by
  induction names generalizing directory with
  | nil => rw [List.foldl_nil, List.append_nil]
  | cons name rest ih =>
      rw [List.forall_mem_cons] at hnames
      rw [List.foldl_cons, ih (join_ne_empty directory name hnames.1) hnames.2,
        components_join hdirectory hnames.1, List.append_assoc, List.singleton_append]

/-- All paths below a directory start with the same components. -/
theorem exists_start_components (directory : String) : ∃ start, ∀ names ≠ [],
    (∀ name ∈ names, IsEntryName name) →
      components (names.foldl join directory) = start ++ names := by
  by_cases hdirectory : directory = ""
  · -- What is joined to an empty path lies below the root of all files.
    refine ⟨components "/", fun names hne hnames => ?_⟩
    obtain ⟨name, rest, rfl⟩ := List.exists_cons_of_ne_nil hne
    have hroot : join directory name = join "/" name := by simp [hdirectory, join]
    rw [List.foldl_cons, hroot, ← List.foldl_cons]
    exact components_foldl_join (by decide) hnames
  · exact ⟨components directory, fun names _ hnames => components_foldl_join hdirectory hnames⟩

/-- Paths below a directory are told apart by the names that lead to them. -/
theorem foldl_join_inj {directory : String} {names others : List String} (hne : names ≠ [])
    (hne' : others ≠ []) (hnames : ∀ name ∈ names, IsEntryName name)
    (hothers : ∀ name ∈ others, IsEntryName name)
    (h : names.foldl join directory = others.foldl join directory) : names = others := by
  obtain ⟨start, hstart⟩ := exists_start_components directory
  have hcomponents := congrArg components h
  rw [hstart names hne hnames, hstart others hne' hothers] at hcomponents
  exact List.append_cancel_left hcomponents

def componentBytes (path : String) : List (List UInt8) :=
  (components path).map utf8Bytes

/-- Paths below a directory are in the order of the names that lead to them. -/
theorem componentBytes_foldl_join_lt {directory : String} {names others : List String}
    (hne : names ≠ []) (hnames : ∀ name ∈ names, IsEntryName name)
    (hothers : ∀ name ∈ others, IsEntryName name) (h : names < others) :
    componentBytes (names.foldl join directory) < componentBytes (others.foldl join directory) := by
  obtain ⟨start, hstart⟩ := exists_start_components directory
  have hne' : others ≠ [] := by
    rintro rfl
    exact List.not_lt_nil names h
  rw [componentBytes, componentBytes, hstart names hne hnames, hstart others hne' hothers]
  exact List.map_lt (fun _ _ => utf8Bytes_lt) (List.append_left_lt h)

/-- The short name of a file below a directory is its name without the extension. -/
theorem shortName?_foldl_join {directory file : String} {directories : List String}
    (hnames : ∀ name ∈ directories ++ [file], IsEntryName name) :
    shortName? ((directories ++ [file]).foldl join directory) = some (stem file) := by
  obtain ⟨start, hstart⟩ := exists_start_components directory
  have hfile : IsEntryName file := hnames file (List.mem_append_right _ List.mem_cons_self)
  rw [shortName?, fileName?, hstart _ (List.concat_ne_nil file directories) hnames,
    ← List.append_assoc, List.getLast?_concat]
  simp [hfile.not_idle, hfile.not_parent]

/-- A name with an extension is its stem, which is not empty, a dot and the extension. -/
theorem eq_stem_append_of_extension? {name extension : String}
    (h : extension? name = some extension) :
    stem name ≠ "" ∧ name = stem name ++ "." ++ extension := by
  have hreversed := List.takeWhile_append_dropWhile (p := (· ≠ '.')) (l := name.toList.reverse)
  have hdot := List.head?_dropWhile_not (· ≠ '.') name.toList.reverse
  rw [extension?, splitName] at h
  rw [stem, splitName]
  split at h
  · next mark c rest hdrop =>
      obtain rfl := Option.some.inj h
      rw [hdrop] at hreversed hdot
      have hmark : mark = '.' := by simpa using hdot
      generalize name.toList.reverse.takeWhile (· ≠ '.') = ending at hreversed ⊢
      refine ⟨by simp, String.toList_injective ?_⟩
      rw [← List.reverse_inj, ← hreversed, hmark]
      simp
  · cases h

end Path

end ShapeCatalog
