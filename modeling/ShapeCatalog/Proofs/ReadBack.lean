import ShapeCatalog.Proofs.Outcome
import ShapeCatalog.Proofs.WrittenText

/-!
Readers and what they read written again.  A reader reads back what is written if, of everything it
accepts, the written value is regular and opens no more containers than the reader had left, and if
what is written is read when there is room for its containers, and refused when there is not.  What
is read then is the same thing, if all its numbers are read as themselves.
-/

namespace ShapeCatalog.Json

open Value (Within)

variable {α β : Type}

theorem Value.itemTrees_eq_map (items : List Value) :
    Value.itemTrees items = items.map Value.toTree := by
  induction items with
  | nil => rfl
  | cons item rest ih => rw [Value.itemTrees, ih, List.map_cons]

theorem Value.entryTrees_eq_map (entries : List (String × Value)) :
    Value.entryTrees entries = entries.map fun entry => (some entry.1, entry.2.toTree) := by
  induction entries with
  | nil => rfl
  | cons entry rest ih => rw [Value.entryTrees, ih, List.map_cons]

theorem Value.toTree_ne_null {value : Value} (h : value ≠ .null) : value.toTree ≠ .null := by
  cases value with
  | null => exact absurd rfl h
  | _ => exact nofun

/-- Whether reading a value gave the same thing again, if its numbers are read as themselves. -/
def Value.Keeps (value : Value) (found again : α) : Prop :=
  value.reread = value → again = found

namespace Reader

/-- A value is read as this, but for its numbers, or refused if it opens more containers than may
still be opened. -/
def Decodes (reader : Reader α) (room : Nat) (value : Value) (found : α) : Prop :=
  SucceedsIff (reader room value.toTree) (value.depth ≤ room) (value.Keeps found)

/-- Whatever is read is read back from what it is written as. -/
structure ReadsBack (reader : Reader α) (write : α → Value) (room : Nat) : Prop where
  within : ∀ {tree : Tree} {found : α}, reader room tree = .ok found →
    (write found).Within room
  decodes : ∀ {found : α}, (write found).isRegular = true →
    reader.Decodes room (write found) found

theorem readsBack_value {room : Nat} : Reader.value.ReadsBack id room where
  within {tree found} h := by
    rw [Reader.value] at h
    split at h
    · next value hvalue =>
        cases h
        exact Value.within_of_toValue? tree hvalue
    · cases h
  decodes {found} hregular := by
    rw [Decodes, Reader.value, id, Value.toValue?_toTree found hregular]
    by_cases hfits : found.depth ≤ room
    · rw [if_pos hfits]
      exact .ok hfits id
    · rw [if_neg hfits]
      exact .error ReadError.malformed hfits

theorem readsBack_text {room : Nat} : Reader.text.ReadsBack .string room where
  within _ := ⟨Nat.zero_le _, rfl⟩
  decodes _ := .ok (Nat.zero_le room) fun _ => rfl

variable {reader : Reader α} {write : α → Value} {room : Nat}

/-- What stands for something else is read back if that is. -/
theorem ReadsBack.map {f : α → β} {write' : β → Value} (h : reader.ReadsBack write room)
    (hwrite : ∀ found, write' (f found) = write found) (hall : ∀ other, ∃ found, f found = other) :
    Reader.ReadsBack (fun room tree => (reader room tree).map f) write' room where
  within {tree other} hread := by
    obtain ⟨found, hfound, rfl⟩ := map_eq_ok.mp hread
    rw [hwrite]
    exact h.within hfound
  decodes {other} hregular := by
    obtain ⟨found, rfl⟩ := hall other
    rw [hwrite] at hregular ⊢
    exact SucceedsIff.map (h.decodes hregular) fun again hkeeps hsame =>
      congrArg f (hkeeps hsame)

/-- What is never written as `null` may be absent, and is then written as `null`. -/
theorem ReadsBack.optional (h : reader.ReadsBack write room)
    (hnull : ∀ found, write found ≠ .null) :
    (Reader.optional reader).ReadsBack (fun found? => found?.elim .null write) room where
  within {tree found?} hread := by
    unfold Reader.optional at hread
    split at hread
    · obtain rfl := Except.ok.inj hread
      exact ⟨Nat.zero_le _, rfl⟩
    · obtain ⟨found, hfound, rfl⟩ := map_eq_ok.mp hread
      exact h.within hfound
  decodes {found?} hregular := by
    cases found? with
    | none => exact .ok (Nat.zero_le room) fun _ => rfl
    | some found =>
        rw [Decodes, Option.elim, Reader.optional]
        · exact SucceedsIff.map (h.decodes hregular) fun again hkeeps hsame =>
            congrArg some (hkeeps hsame)
        · exact Value.toTree_ne_null (hnull found)

/-- Items are the same again if each of them is. -/
theorem eq_of_forall₂_keeps {items agains : List α}
    (h : List.Forall₂ (fun item again => (write item).Keeps item again) items agains)
    (hsame : ∀ item ∈ items, (write item).reread = write item) : agains = items := by
  induction h with
  | nil => rfl
  | cons hfirst _ ih =>
      rw [List.forall_mem_cons] at hsame
      rw [hfirst hsame.1, ih hsame.2]

/-- An array is read only with room for it, and its items with the room that is left. -/
theorem of_list_eq_ok {tree : Tree} {items : List α}
    (h : Reader.list reader room tree = .ok items) :
    0 < room ∧ ∀ item ∈ items, ∃ tree, reader (room - 1) tree = .ok item := by
  unfold Reader.list at h
  split at h
  · next trees closed =>
      cases room with
      | zero => cases h
      | succ inner =>
          obtain ⟨found, hfound, h⟩ := bind_eq_ok.mp h
          split at h
          · obtain rfl := Except.ok.inj h
            refine ⟨Nat.succ_pos inner, fun item hitem => ?_⟩
            obtain ⟨tree, -, hread⟩ := exists_left_of_forall₂ (mapM_eq_ok.mp hfound) hitem
            exact ⟨tree, hread⟩
          · cases h
  · cases h

theorem ReadsBack.list (h : reader.ReadsBack write (room - 1)) :
    (Reader.list reader).ReadsBack (fun items => .array (items.map write)) room where
  within {tree items} hread := by
    obtain ⟨hroom, hitems⟩ := of_list_eq_ok hread
    rw [← Nat.sub_add_cancel hroom]
    refine Value.within_array ?_
    intro value hvalue
    obtain ⟨item, hitem, rfl⟩ := List.mem_map.mp hvalue
    obtain ⟨tree, hread⟩ := hitems item hitem
    exact h.within hread
  decodes {items} hregular := by
    rw [Value.isRegular, Value.itemsRegular_iff, List.forall_mem_map] at hregular
    rw [Decodes, Value.toTree, Value.depth]
    cases room with
    | zero => exact .error ReadError.malformed (Nat.not_succ_le_zero _)
    | succ inner =>
        have hitems : SucceedsIff ((Value.itemTrees (items.map write)).mapM (reader inner))
            (∀ item ∈ items, (write item).depth ≤ inner)
            (Value.Keeps (.array (items.map write)) items) := by
          rw [Value.itemTrees_eq_map, List.map_map]
          refine .imp (.mapM_map fun item hitem => h.decodes (hregular item hitem)) ?_
          intro agains hagains hsame
          rw [Value.reread_array_eq_self_iff, List.forall_mem_map] at hsame
          exact eq_of_forall₂_keeps hagains hsame
        rw [Nat.add_le_add_iff_right, Value.depthItems_le_iff, List.forall_mem_map]
        exact (hitems.bind fun again hagain => .ok trivial hagain).congr (and_iff_left trivial)

/-- An object is read only with room for it, and its values with the room that is left. -/
theorem of_entries_eq_ok {tree : Tree} {found : Entries α}
    (h : Reader.entries reader room tree = .ok found) :
    0 < room ∧ ∀ entry ∈ found, ∃ tree, reader (room - 1) tree = .ok entry.2 := by
  unfold Reader.entries at h
  split at h
  · next trees closed =>
      cases room with
      | zero => cases h
      | succ inner =>
          obtain ⟨found, hfound, h⟩ := bind_eq_ok.mp h
          split at h
          · obtain rfl := Except.ok.inj h
            refine ⟨Nat.succ_pos inner, fun entry hentry => ?_⟩
            obtain ⟨⟨key?, tree⟩, -, hread⟩ :=
              exists_left_of_forall₂ (mapM_eq_ok.mp hfound) hentry
            cases key? with
            | none => cases hread
            | some key =>
                obtain ⟨value, hvalue, rfl⟩ := map_eq_ok.mp hread
                exact ⟨tree, hvalue⟩
          · cases h
  · cases h

def writeEntries (write : α → Value) (entries : Entries α) : List (String × Value) :=
  entries.map fun entry => (entry.1, write entry.2)

theorem decodes_entries (h : reader.ReadsBack write (room - 1)) {entries : Entries α}
    (hregular : (Value.object (writeEntries write entries)).isRegular = true) :
    (Reader.entries reader).Decodes room (.object (writeEntries write entries)) entries := by
  rw [Value.isRegular, Bool.and_eq_true, Value.entriesRegular_iff, writeEntries,
    List.forall_mem_map] at hregular
  rw [Decodes, Value.toTree, Value.depth]
  cases room with
  | zero => exact .error ReadError.malformed (Nat.not_succ_le_zero _)
  | succ inner =>
      have hentries : SucceedsIff ((Value.entryTrees (writeEntries write entries)).mapM
          (Reader.entry reader inner)) (∀ entry ∈ entries, (write entry.2).depth ≤ inner)
          (Value.Keeps (.object (writeEntries write entries)) entries) := by
        have hentry : ∀ entry ∈ entries, SucceedsIff
            (Reader.entry reader inner (some entry.1, (write entry.2).toTree))
            ((write entry.2).depth ≤ inner) ((write entry.2).Keeps entry) :=
          fun entry hentry => SucceedsIff.map (h.decodes (hregular.2 entry hentry))
            fun found hkeeps hsame => congrArg (Prod.mk entry.1) (hkeeps hsame)
        rw [Value.entryTrees_eq_map, writeEntries, List.map_map]
        refine .imp (.mapM_map hentry) fun agains hagains hsame => ?_
        rw [Value.reread_object_eq_self_iff, List.forall_mem_map] at hsame
        exact eq_of_forall₂_keeps hagains hsame
      rw [Nat.add_le_add_iff_right, Value.depthEntries_le_iff, writeEntries, List.forall_mem_map]
      exact (hentries.bind fun again hagain => .ok trivial hagain).congr (and_iff_left trivial)

theorem within_entries (h : reader.ReadsBack write (room - 1)) {tree : Tree}
    {found kept : Entries α} (hread : Reader.entries reader room tree = .ok found)
    (hnodup : (Entries.keys kept).Nodup) (hkept : ∀ entry ∈ kept, entry ∈ found) :
    (Value.object (writeEntries write kept)).Within room := by
  obtain ⟨hroom, hentries⟩ := of_entries_eq_ok hread
  rw [← Nat.sub_add_cancel hroom]
  refine Value.within_object ?_ ?_
  · rwa [Entries.keys, writeEntries, List.map_map]
  · intro value hvalue
    obtain ⟨entry, hentry, rfl⟩ := List.mem_map.mp hvalue
    obtain ⟨tree, hread⟩ := hentries entry (hkept entry hentry)
    exact h.within hread

theorem ReadsBack.orderedMap (h : reader.ReadsBack write (room - 1)) :
    (Reader.orderedMap reader).ReadsBack (fun map => .object (writeEntries write map.entries))
      room where
  within {tree map} hread := by
    obtain ⟨found, hfound, rfl⟩ := map_eq_ok.mp hread
    exact within_entries h hfound (OrderedMap.keys_nodup _) fun _ => OrderedMap.mem_of_mem_ofList
  decodes {map} hregular := by
    refine SucceedsIff.map (decodes_entries h hregular) fun again hkeeps hsame => ?_
    rw [hkeeps hsame, OrderedMap.ofList_entries]

theorem ReadsBack.sortedMap (h : reader.ReadsBack write (room - 1)) :
    (Reader.sortedMap reader).ReadsBack (fun map => .object (writeEntries write map.entries))
      room where
  within {tree map} hread := by
    obtain ⟨found, hfound, rfl⟩ := map_eq_ok.mp hread
    exact within_entries h hfound (SortedMap.keys_nodup _) fun _ => SortedMap.mem_of_mem_ofList
  decodes {map} hregular := by
    refine SucceedsIff.map (decodes_entries h hregular) fun again hkeeps hsame => ?_
    rw [hkeeps hsame, SortedMap.ofList_entries]

theorem ofText_eq_ok {text : String} {found : α} : Reader.ofText reader text = .ok found ↔
    reader maxOpen (Tree.ofText text).1 = .ok found ∧ (Tree.ofText text).2 = true := by
  refine bind_eq_ok.trans ⟨?_, ?_⟩
  · rintro ⟨value, hvalue, h⟩
    split at h
    · next hended =>
        obtain rfl := pure_eq_ok.mp h
        exact ⟨hvalue, hended⟩
    · cases h
  · rintro ⟨hread, hended⟩
    exact ⟨found, hread, if_pos hended⟩

/-- What is read from a whole text opens no more containers than may be open at once. -/
theorem ReadsBack.within_of_ofText (h : reader.ReadsBack write maxOpen) {text : String} {found : α}
    (hread : Reader.ofText reader text = .ok found) : (write found).Within maxOpen :=
  h.within (ofText_eq_ok.mp hread).1

/-- A reader meets the tree of a value in the text of the value. -/
theorem ofText_write (reader : Reader α) (layout : Layout) (value : Value) :
    Reader.ofText reader (value.write layout) = reader maxOpen value.toTree := by
  rw [Reader.ofText, Value.ofText_write layout value]
  cases hread : reader maxOpen value.toTree with
  | ok found => simp [hread, ok_bind, pure, Except.pure]
  | error fault => simp [hread]

/-- What is written as a regular value is read from its text, or refused if it opens too many
containers. -/
theorem ReadsBack.succeedsIff_ofText (h : reader.ReadsBack write maxOpen) (layout : Layout)
    {found : α} (hregular : (write found).isRegular = true) :
    SucceedsIff (Reader.ofText reader ((write found).write layout))
      ((write found).depth ≤ maxOpen) ((write found).Keeps found) := by
  rw [ofText_write reader layout]
  exact h.decodes hregular

/-- What was read from a text is read again from its own. -/
theorem ReadsBack.exists_reread (h : reader.ReadsBack write maxOpen) (layout : Layout)
    {text : String} {found : α} (hread : Reader.ofText reader text = .ok found) :
    ∃ again, Reader.ofText reader ((write found).write layout) = .ok again ∧
      (write found).Keeps found again := by
  have hwithin := h.within_of_ofText hread
  exact (h.succeedsIff_ofText layout hwithin.regular).exists_ok hwithin.depth_le

end Reader

end ShapeCatalog.Json
