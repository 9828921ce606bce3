import ShapeCatalog.Json.Tagged
import ShapeCatalog.Proofs.ReadBack

/-!
Records read back.  A record is written as an object with its fields in declared order, some of
which may be left out where the default stands for them.  However a record was spelled, its values
were read by the readers of its fields or are their defaults, so that what holds of each field
holds of the record.
-/

namespace ShapeCatalog.Json

open Value (Within)

variable {α : Type}

namespace FieldSpec

/-- Whether a value of a field was read there, or is the default. -/
def Has (field : FieldSpec α) (room : Nat) (value : α) : Prop :=
  (∃ tree, field.read room tree = .ok value) ∨ field.default? = some value

end FieldSpec

namespace Fields

def names {δ τ : Type} : Fields δ τ → List String
  | .nil => []
  | .cons first rest => first.name :: rest.names

/-- Whether every value of a record was read in its field, or is the default of the field. -/
def Have (room : Nat) {δ τ : Type} : Fields δ τ → τ → Prop
  | .nil, () => True
  | .cons first rest, (value, values) => first.Has room value ∧ rest.Have room values

/-- Whether everything in a draft was read in its field. -/
def HaveRead (room : Nat) {δ τ : Type} : Fields δ τ → δ → Prop
  | .nil, () => True
  | .cons first rest, (slot, others) =>
      (∀ value, slot = some value → ∃ tree, first.read room tree = .ok value) ∧
        rest.HaveRead room others

variable {δ τ : Type} {room : Nat}

section OneField

variable {first : FieldSpec α} {rest : Fields δ τ} {slot : Option α} {others : δ} {tree : Tree}
  {next : Option α × δ}

/-- A field takes an entry of its name once. -/
theorem readEntry_own_eq_ok :
    (cons first rest).readEntry room first.name tree (slot, others) = .ok next ↔
      slot = none ∧ ∃ value, first.read room tree = .ok value ∧ next = (some value, others) := by
  rw [readEntry, if_pos rfl]
  cases slot with
  | some taken =>
      rw [Option.isSome_some, if_pos rfl]
      constructor
      · intro h
        cases h
      · rintro ⟨h, -⟩
        cases h
  | none =>
      rw [Option.isSome_none, if_neg Bool.false_ne_true, map_eq_ok, and_iff_right rfl]
      simp only [eq_comm]

/-- An entry of another name passes by a field. -/
theorem readEntry_other_eq_ok {key : String} (hkey : key ≠ first.name) :
    (cons first rest).readEntry room key tree (slot, others) = .ok next ↔
      ∃ others', rest.readEntry room key tree others = .ok others' ∧ next = (slot, others') := by
  rw [readEntry, if_neg hkey, map_eq_ok]
  simp only [eq_comm]

end OneField

/-- Entries are taken one by one, each under its key. -/
theorem readEntries_cons_eq_ok {fields : Fields δ τ} {entry : Option String × Tree}
    {rest : List (Option String × Tree)} {draft last : δ} :
    fields.readEntries room draft (entry :: rest) = .ok last ↔
      ∃ key next, entry.1 = some key ∧ fields.readEntry room key entry.2 draft = .ok next ∧
        fields.readEntries room next rest = .ok last := by
  obtain ⟨key?, tree⟩ := entry
  cases key? with
  | none => exact ⟨nofun, nofun⟩
  | some key =>
      refine bind_eq_ok.trans ⟨?_, ?_⟩
      · rintro ⟨next, hnext, hrest⟩
        exact ⟨key, next, rfl, hnext, hrest⟩
      · rintro ⟨_, next, ⟨⟩, hnext, hrest⟩
        exact ⟨next, hnext, hrest⟩

theorem haveRead_blank (fields : Fields δ τ) : fields.HaveRead room fields.blank := by
  induction fields with
  | nil => trivial
  | cons first rest ih => exact ⟨nofun, ih⟩

/-- An entry leaves nothing in the draft that was not read. -/
theorem haveRead_readEntry {key : String} {tree : Tree} (fields : Fields δ τ) {draft draft' : δ}
    (hdraft : fields.HaveRead room draft)
    (h : fields.readEntry room key tree draft = .ok draft') : fields.HaveRead room draft' := by
  induction fields with
  | nil => trivial
  | cons first rest ih =>
      obtain ⟨slot, others⟩ := draft
      by_cases hkey : key = first.name
      · subst hkey
        obtain ⟨-, value, hvalue, rfl⟩ := readEntry_own_eq_ok.mp h
        refine ⟨?_, hdraft.2⟩
        intro found heq
        obtain rfl := Option.some.inj heq
        exact ⟨tree, hvalue⟩
      · obtain ⟨others', hothers, rfl⟩ := (readEntry_other_eq_ok hkey).mp h
        exact ⟨hdraft.1, ih hdraft.2 hothers⟩

theorem haveRead_readEntries (fields : Fields δ τ) {entries : List (Option String × Tree)}
    {draft draft' : δ} (hdraft : fields.HaveRead room draft)
    (h : fields.readEntries room draft entries = .ok draft') : fields.HaveRead room draft' := by
  induction entries generalizing draft with
  | nil =>
      obtain rfl := Except.ok.inj h
      exact hdraft
  | cons entry rest ih =>
      obtain ⟨key, next, -, hnext, hrest⟩ := readEntries_cons_eq_ok.mp h
      exact ih (haveRead_readEntry fields hdraft hnext) hrest

theorem have_of_complete (fields : Fields δ τ) {draft : δ} {values : τ}
    (hdraft : fields.HaveRead room draft) (h : fields.complete draft = .ok values) :
    fields.Have room values := by
  induction fields with
  | nil => trivial
  | cons first rest ih =>
      obtain ⟨slot, others⟩ := draft
      rw [complete] at h
      split at h
      · cases h
      · next value hvalue =>
          obtain ⟨values, hvalues, rfl⟩ := map_eq_ok.mp h
          refine ⟨?_, ih hdraft.2 hvalues⟩
          cases slot with
          | none => exact Or.inr hvalue
          | some found =>
              obtain rfl := Option.some.inj hvalue
              exact Or.inl (hdraft.1 found rfl)

theorem have_of_ofEntries (fields : Fields δ τ) {entries : List (Option String × Tree)}
    {closed : Bool} {values : τ} (h : fields.ofEntries room entries closed = .ok values) :
    fields.Have room values := by
  obtain ⟨draft, hdraft, h⟩ := bind_eq_ok.mp h
  split at h
  · exact have_of_complete fields (haveRead_readEntries fields (haveRead_blank fields) hdraft) h
  · cases h

/-- In an array a field is read at its place, or the array ends before it. -/
theorem have_of_readItems (fields : Fields δ τ) {closed : Bool} {tooFew tooMany : Nat → ReadError}
    {before : Nat} {items : List Tree} {values : τ}
    (h : fields.readItems room closed tooFew tooMany before items = .ok values) :
    fields.Have room values := by
  induction fields generalizing before items with
  | nil => trivial
  | cons first rest ih =>
      obtain ⟨value, values⟩ := values
      cases items with
      | nil =>
          rw [readItems] at h
          split at h
          · split at h
            · cases h
            · next hdefault =>
                obtain ⟨others, hothers, heq⟩ := map_eq_ok.mp h
                cases heq
                exact ⟨Or.inr hdefault, ih hothers⟩
          · cases h
      | cons item others =>
          obtain ⟨found, hfound, h⟩ := bind_eq_ok.mp h
          obtain ⟨others, hothers, heq⟩ := map_eq_ok.mp h
          cases heq
          exact ⟨Or.inl ⟨item, hfound⟩, ih hothers⟩

end Fields

namespace Record

variable {τ : Type} {room : Nat}

/-- A record is read only with room for it, and its fields with the room that is left. -/
theorem have_of_reader {record : Record τ} {tree : Tree} {values : τ}
    (h : record.reader room tree = .ok values) :
    0 < room ∧ record.fields.Have (room - 1) values := by
  unfold reader at h
  split at h
  · cases h
  · cases h
  · exact ⟨Nat.succ_pos _, Fields.have_of_ofEntries _ h⟩
  · exact ⟨Nat.succ_pos _, Fields.have_of_readItems _ h⟩
  · cases h

theorem have_of_ofPayload {record : Record τ} {payload : Payload} {values : τ}
    (h : record.ofPayload room payload = .ok values) : record.fields.Have room values := by
  cases payload with
  | entries entries => exact Fields.have_of_ofEntries _ h
  | items items => exact Fields.have_of_readItems _ h

end Record

namespace Fields

variable {δ τ : Type} {room : Nat}

/-- Entries with other keys pass by a field. -/
theorem readEntries_cons_of_not_mem {first : FieldSpec α} {rest : Fields δ τ} {slot : Option α}
    {entries : List (String × Value)} (hnot : first.name ∉ Entries.keys entries) (draft : δ) :
    (cons first rest).readEntries room (slot, draft) (Value.entryTrees entries)
      = (rest.readEntries room draft (Value.entryTrees entries)).map
          fun draft => (slot, draft) := by
  induction entries generalizing draft with
  | nil => rfl
  | cons entry others ih =>
      obtain ⟨key, value⟩ := entry
      simp only [Entries.keys, List.map_cons, List.mem_cons, not_or] at hnot
      have hkey : ¬key = first.name := fun heq => hnot.1 heq.symm
      rw [Value.entryTrees, readEntries, readEntries, readEntry, if_neg hkey]
      cases rest.readEntry room key value.toTree draft with
      | error fault => rfl
      | ok next => exact ih hnot.2 next

/-- A field that is left out has its default. -/
theorem ofEntries_absent {first : FieldSpec α} {rest : Fields δ τ}
    {entries : List (String × Value)} {value : α} (hnot : first.name ∉ Entries.keys entries)
    (hdefault : first.default? = some value) :
    (cons first rest).ofEntries room (Value.entryTrees entries) true
      = (rest.ofEntries room (Value.entryTrees entries) true).map fun values =>
          (value, values) := by
  rw [ofEntries, blank, readEntries_cons_of_not_mem hnot, ofEntries]
  cases rest.readEntries room rest.blank (Value.entryTrees entries) with
  | error fault => rfl
  | ok draft =>
      have hslot : (none <|> first.default?) = some value := hdefault
      show complete (cons first rest) (none, draft) = _
      rw [complete, hslot]
      rfl

/-- A field that comes first is read, and then the others. -/
theorem ofEntries_given {first : FieldSpec α} {rest : Fields δ τ}
    {entries : List (String × Value)} {value : Value} (hnot : first.name ∉ Entries.keys entries) :
    (cons first rest).ofEntries room (Value.entryTrees ((first.name, value) :: entries)) true
      = (first.read room value.toTree).bind fun found =>
          (rest.ofEntries room (Value.entryTrees entries) true).map fun values =>
            (found, values) := by
  rw [ofEntries, blank, Value.entryTrees, readEntries, readEntry, if_pos rfl]
  cases first.read room value.toTree with
  | error fault => rfl
  | ok found =>
      show ((cons first rest).readEntries room (some found, rest.blank) _).bind _ = _
      rw [readEntries_cons_of_not_mem hnot]
      show _ = (rest.ofEntries room (Value.entryTrees entries) true).map _
      rw [ofEntries]
      cases rest.readEntries room rest.blank (Value.entryTrees entries) with
      | error fault => rfl
      | ok draft => rfl

end Fields

/-- Whether a field is read back from what is written of it.  It may be left out where its default
stands for it. -/
structure FieldSpec.ReadsBack (field : FieldSpec α) (write? : α → Option Value) (room : Nat) :
    Prop where
  within : ∀ {found : α} {value : Value}, field.Has room found → write? found = some value →
    value.Within room
  decodes : ∀ {found : α} {value : Value}, write? found = some value → value.isRegular = true →
    field.read.Decodes room value found
  default_of_absent : ∀ {found : α}, write? found = none → field.default? = some found

section Field

variable {name : String} {reader : Reader α} {write : α → Value} {room : Nat}

theorem FieldSpec.ReadsBack.required (h : reader.ReadsBack write room) :
    (FieldSpec.required name reader).ReadsBack (fun found => some (write found)) room where
  within hhas hwrite := by
    obtain rfl := Option.some.inj hwrite
    rcases hhas with ⟨tree, hread⟩ | hdefault
    · exact h.within hread
    · cases hdefault
  decodes hwrite hregular := by
    obtain rfl := Option.some.inj hwrite
    exact h.decodes hregular
  default_of_absent hwrite := by cases hwrite

/-- A field with a default may leave out its default, and nothing else. -/
theorem FieldSpec.ReadsBack.defaulted {default : α} {write? : α → Option Value}
    (h : reader.ReadsBack write room) (hdefault : (write default).Within room)
    (hwrite : ∀ found, write? found = some (write found) ∨ write? found = none ∧ found = default) :
    (FieldSpec.defaulted name reader default).ReadsBack write? room where
  within {found value} hhas hvalue := by
    have heq : write found = value := by
      rcases hwrite found with heq | ⟨heq, -⟩
      · exact Option.some.inj (heq.symm.trans hvalue)
      · cases heq.symm.trans hvalue
    rw [← heq]
    rcases hhas with ⟨tree, hread⟩ | hdefault'
    · exact h.within hread
    · obtain rfl := Option.some.inj hdefault'
      exact hdefault
  decodes {found value} hvalue hregular := by
    rcases hwrite found with heq | ⟨heq, -⟩
    · obtain rfl := Option.some.inj (heq.symm.trans hvalue)
      exact h.decodes hregular
    · cases heq.symm.trans hvalue
  default_of_absent {found} habsent := by
    rcases hwrite found with heq | ⟨-, rfl⟩
    · cases heq.symm.trans habsent
    · rfl

end Field

namespace Fields

/-- Whether the fields of a record are read back from the entries that are written of them. -/
inductive ReadBack (room : Nat) :
    {δ τ : Type} → Fields δ τ → (τ → List (String × Value)) → Prop where
  | nil : ReadBack room .nil fun _ => []
  | cons {α δ τ : Type} {first : FieldSpec α} {rest : Fields δ τ} {write? : α → Option Value}
      {writeRest : τ → List (String × Value)} (head : first.ReadsBack write? room)
      (tail : ReadBack room rest writeRest) :
      ReadBack room (.cons first rest) fun values =>
        ((write? values.1).map fun value => (first.name, value)).toList ++ writeRest values.2

variable {δ τ : Type} {room : Nat} {fields : Fields δ τ}
  {write : τ → List (String × Value)}

theorem ReadBack.keys_sublist (h : fields.ReadBack room write) (values : τ) :
    (Entries.keys (write values)).Sublist fields.names := by
  induction h with
  | nil => exact List.Sublist.refl []
  | @cons _ _ _ first rest write? writeRest _ _ ih =>
      obtain ⟨value, values⟩ := values
      cases hvalue : write? value with
      | none =>
          simp only [hvalue, Option.map_none, Option.toList_none, List.nil_append]
          exact (ih values).cons first.name
      | some written =>
          simp only [hvalue, Option.map_some, Option.toList_some, List.cons_append,
            List.nil_append]
          exact (ih values).cons_cons first.name

theorem ReadBack.within (h : fields.ReadBack room write) {values : τ}
    (hhave : fields.Have room values) : ∀ entry ∈ write values, entry.2.Within room := by
  induction h with
  | nil => exact List.forall_mem_nil _
  | @cons _ _ _ first rest write? writeRest hfirst _ ih =>
      obtain ⟨value, values⟩ := values
      obtain ⟨hvalue, hvalues⟩ := hhave
      rw [List.forall_mem_append]
      refine ⟨?_, ih hvalues⟩
      intro entry hentry
      obtain ⟨written, hwritten, rfl⟩ := Option.map_eq_some_iff.mp (Option.mem_toList.mp hentry)
      exact hfirst.within hvalue hwritten

/-- Fields are read back in their declared order, those that are left out among them. -/
theorem ReadBack.decodes (h : fields.ReadBack room write) (hnames : fields.names.Nodup)
    (values : τ) (hregular : Value.entriesRegular (write values) = true) :
    SucceedsIff (fields.ofEntries room (Value.entryTrees (write values)) true)
      (∀ entry ∈ write values, entry.2.depth ≤ room)
      (Value.Keeps (.object (write values)) values) := by
  induction h with
  | nil => exact .ok (List.forall_mem_nil _) fun _ => rfl
  | @cons _ _ _ first rest write? writeRest hfirst hrest ih =>
      obtain ⟨value, values⟩ := values
      rw [names, List.nodup_cons] at hnames
      have hnot : first.name ∉ Entries.keys (writeRest values) := fun hmem =>
        hnames.1 ((hrest.keys_sublist values).subset hmem)
      rw [Value.entriesRegular_iff, List.forall_mem_append] at hregular
      have hvalues := ih hnames.2 values (Value.entriesRegular_iff.mpr hregular.2)
      -- A field that is left out has no entry among those of the others; one that is given comes
      -- before them.
      cases hvalue : write? value with
      | none =>
          simp only [hvalue, Option.map_none, Option.toList_none, List.nil_append]
          rw [ofEntries_absent hnot (hfirst.default_of_absent hvalue)]
          exact hvalues.map fun again hkeeps hsame => congrArg (Prod.mk value) (hkeeps hsame)
      | some written =>
          simp only [hvalue, Option.map_some, Option.toList_some, List.cons_append,
            List.nil_append]
          have hwritten : written.isRegular = true := by
            refine hregular.1 (first.name, written) ?_
            rw [hvalue]
            exact List.mem_singleton_self _
          rw [ofEntries_given hnot, List.forall_mem_cons]
          refine (hfirst.decodes hvalue hwritten).bind fun found hfound => ?_
          refine hvalues.map fun again hkeeps hsame => ?_
          rw [Value.reread_object_eq_self_iff, List.forall_mem_cons] at hsame
          rw [hfound hsame.1, hkeeps (Value.reread_object_eq_self_iff.mpr hsame.2)]

end Fields

namespace Record

variable {τ : Type} {record : Record τ} {write : τ → List (String × Value)} {room : Nat}

/-- A record is read back as an object of its fields. -/
theorem readsBack (h : record.fields.ReadBack (room - 1) write)
    (hnames : record.fields.names.Nodup) :
    record.reader.ReadsBack (fun values => .object (write values)) room where
  within {tree values} hread := by
    obtain ⟨hroom, hhave⟩ := have_of_reader hread
    rw [← Nat.sub_add_cancel hroom]
    exact Value.within_object (hnames.sublist (h.keys_sublist values)) (h.within hhave)
  decodes {values} hregular := by
    rw [Value.isRegular, Bool.and_eq_true] at hregular
    rw [Reader.Decodes, Value.toTree, Value.depth]
    cases room with
    | zero => exact .error ReadError.malformed (Nat.not_succ_le_zero _)
    | succ inner =>
        rw [Nat.add_le_add_iff_right, Value.depthEntries_le_iff]
        exact h.decodes hnames values hregular.2

/-- What stands beside a tag is within its room, as far as it is written again. -/
theorem within_of_ofPayload (h : record.fields.ReadBack room write) {payload : Payload}
    {values : τ} (hread : record.ofPayload room payload = .ok values) :
    ∀ entry ∈ write values, entry.2.Within room :=
  h.within (have_of_ofPayload hread)

end Record

namespace Choice

variable {κ : Type} {choice : Choice κ} {room : Nat}

/-- Entries without the tag are read through and kept. -/
theorem splitEntries_entryTrees {kind? : Option κ} {entries : List (String × Value)}
    (hregular : Value.entriesRegular entries = true)
    (hnot : choice.field ∉ Entries.keys entries) :
    SucceedsIff (choice.splitEntries room kind? (Value.entryTrees entries))
      (∀ entry ∈ entries, entry.2.depth ≤ room)
      (fun parts => parts = (kind?, Value.entryTrees entries)) := by
  induction entries with
  | nil => exact .ok (List.forall_mem_nil _) rfl
  | cons entry rest ih =>
      obtain ⟨key, value⟩ := entry
      rw [Value.entriesRegular, Bool.and_eq_true] at hregular
      simp only [Entries.keys, List.map_cons, List.mem_cons, not_or] at hnot
      have hkey : ¬key = choice.field := fun heq => hnot.1 heq.symm
      rw [Value.entryTrees, splitEntries, if_neg hkey, Value.toValue?_toTree value hregular.1,
        List.forall_mem_cons]
      by_cases hfits : value.depth ≤ room
      · rw [if_pos hfits]
        refine ((ih hregular.2 hnot.2).map fun parts heq => ?_).congr (and_iff_right hfits).symm
        rw [heq]
      · rw [if_neg hfits]
        exact .error ReadError.malformed fun hall => hfits hall.1

/-- A tagged record is read apart again if its tag is written first. -/
theorem split_toTree {tag : String} {kind : κ} {entries : List (String × Value)}
    (hkind : choice.tags.lookup tag = some kind)
    (hregular : Value.entriesRegular entries = true)
    (hnot : choice.field ∉ Entries.keys entries) :
    SucceedsIff (choice.split room (Value.object ((choice.field, .string tag) :: entries)).toTree)
      ((Value.object ((choice.field, .string tag) :: entries)).depth ≤ room)
      (fun parts => parts = (kind, .entries (Value.entryTrees entries))) := by
  have hdepth : (Value.object ((choice.field, .string tag) :: entries)).depth
      = Value.depthEntries entries + 1 := congrArg (· + 1) (Nat.zero_max _)
  rw [Value.toTree, hdepth]
  cases room with
  | zero => exact .error ReadError.malformed (Nat.not_succ_le_zero _)
  | succ inner =>
      have htag : choice.readTag (.string (some tag)) = .ok kind := by
        rw [readTag, hkind]
      have hentries : choice.splitEntries inner none
          (Value.entryTrees ((choice.field, .string tag) :: entries))
            = choice.splitEntries inner (some kind) (Value.entryTrees entries) := by
        rw [Value.entryTrees, splitEntries, if_pos rfl, Value.toTree, htag]
        rfl
      rw [Nat.add_le_add_iff_right, Value.depthEntries_le_iff, split, hentries]
      refine (SucceedsIff.bind (splitEntries_entryTrees hregular hnot) ?_).congr
        (and_iff_left trivial)
      rintro parts rfl
      exact .ok trivial rfl

end Choice

end ShapeCatalog.Json
