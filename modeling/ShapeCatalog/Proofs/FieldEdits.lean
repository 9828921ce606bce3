import ShapeCatalog.Proofs.RecordReadBack

/-!
Edits of JSON trees that readers do not notice.  The fields of a record that is written as an object
may be reordered, unknown fields may be inserted and deleted, and the values of known fields may be
edited in turn.  Every reader has edits of the same shape as itself that leave what it reads as it
is; and as the fields of a tagged record are read through before they are told apart, edits must
also keep a tree readable as a value.
-/

namespace ShapeCatalog.Json

/-- What may become of a tree where so many containers may still be opened. -/
abbrev Edit := Nat → Tree → Tree → Prop

/-- Edits of the fields of a record that is written as an object, one after the other. -/
inductive EditsFields (fields : Entries Edit) (room : Nat) :
    List (Option String × Tree) → List (Option String × Tree) → Prop where
  | reorder {entries entries' : List (Option String × Tree)} (perm : entries.Perm entries') :
      EditsFields fields room entries entries'
  | insert {entries : List (Option String × Tree)} {key : String} {tree : Tree} {value : Value}
      (unknown : key ∉ Entries.keys fields) (readable : tree.toValue? room = some value) :
      EditsFields fields room entries ((some key, tree) :: entries)
  | delete {entries : List (Option String × Tree)} {key : String} {tree : Tree}
      (unknown : key ∉ Entries.keys fields) :
      EditsFields fields room ((some key, tree) :: entries) entries
  | change {entries : List (Option String × Tree)} {key : String} {edit : Edit} {tree tree' : Tree}
      (known : (key, edit) ∈ fields) (edited : edit room tree tree') :
      EditsFields fields room ((some key, tree) :: entries) ((some key, tree') :: entries)
  | trans {entries entries' entries'' : List (Option String × Tree)}
      (first : EditsFields fields room entries entries')
      (second : EditsFields fields room entries' entries'') :
      EditsFields fields room entries entries''

/-- Edits of the fields of a record that is written as an array: each stays in its place. -/
inductive EditsItems (room : Nat) : Entries Edit → List Tree → List Tree → Prop where
  | nil {fields : Entries Edit} : EditsItems room fields [] []
  | cons {name : String} {edit : Edit} {fields : Entries Edit} {item item' : Tree}
      {items items' : List Tree} (first : edit room item item')
      (rest : EditsItems room fields items items') :
      EditsItems room ((name, edit) :: fields) (item :: items) (item' :: items')

namespace Edit

/-- The edit that leaves a tree as it is. -/
def keep : Edit := fun _ tree tree' => tree' = tree

/-- Edits of what may be `null`, which stays so. -/
inductive optional (edit : Edit) : Nat → Tree → Tree → Prop where
  | absent {room : Nat} : optional edit room .null .null
  | given {room : Nat} {tree tree' : Tree} (present : tree ≠ .null) (present' : tree' ≠ .null)
      (edited : edit room tree tree') : optional edit room tree tree'

/-- Edits of the items of an array, which keep their order. -/
inductive items (edit : Edit) : Nat → Tree → Tree → Prop where
  | array {room : Nat} {trees trees' : List Tree} {closed : Bool}
      (edited : List.Forall₂ (edit room) trees trees') :
      items edit (room + 1) (.array trees closed) (.array trees' closed)

/-- Edits of the values of an object, whose keys stay as they are and keep their order. -/
inductive values (edit : Edit) : Nat → Tree → Tree → Prop where
  | object {room : Nat} {entries entries' : List (Option String × Tree)} {closed : Bool}
      (edited : List.Forall₂ (fun entry entry' => entry'.1 = entry.1 ∧ edit room entry.2 entry'.2)
        entries entries') :
      values edit (room + 1) (.object entries closed) (.object entries' closed)

/-- Edits of a record with known fields. -/
inductive record (fields : Entries Edit) : Nat → Tree → Tree → Prop where
  | same {room : Nat} {tree : Tree} : record fields room tree tree
  | object {room : Nat} {entries entries' : List (Option String × Tree)} {closed : Bool}
      (edited : EditsFields fields room entries entries') :
      record fields (room + 1) (.object entries closed) (.object entries' closed)
  | array {room : Nat} {trees trees' : List Tree} {closed : Bool}
      (edited : EditsItems room fields trees trees') :
      record fields (room + 1) (.array trees closed) (.array trees' closed)

/-- Edits of a tagged record, whose tag decides which fields are known.  The field that holds the
tag may change its place, but not its value. -/
inductive tagged {κ : Type} (choice : Choice κ) (fields : κ → Entries Edit) :
    Nat → Tree → Tree → Prop where
  | same {room : Nat} {tree : Tree} : tagged choice fields room tree tree
  | object {room : Nat} {kind : κ} {tag : Tree} {entries entries' : List (Option String × Tree)}
      {closed : Bool} (entry : (some choice.field, tag) ∈ entries)
      (kind_eq : choice.readTag tag = .ok kind)
      (edited : EditsFields ((choice.field, keep) :: fields kind) room entries entries') :
      tagged choice fields (room + 1) (.object entries closed) (.object entries' closed)
  | array {room : Nat} {kind : κ} {tag : Tree} {trees trees' : List Tree} {closed : Bool}
      (kind_eq : choice.readTag tag = .ok kind)
      (edited : EditsItems room (fields kind) trees trees') :
      tagged choice fields (room + 1) (.array (tag :: trees) closed) (.array (tag :: trees') closed)

end Edit

namespace Tree

mutual

/-- A tree that spells a value keeps to the grammar throughout. -/
theorem isComplete_of_toValue? {room : Nat} {value : Value} : (tree : Tree) →
    tree.toValue? room = some value → tree.isComplete = true
  | .null, _ | .bool _, _ | .number _, _ | .string _, _ => rfl
  | .array items closed, h => by
      rw [toValue?] at h
      split at h
      · cases h
      · next hroom =>
          obtain ⟨values, hvalues, -⟩ := Option.map_eq_some_iff.mp h
          rw [isComplete, itemsComplete_of_itemsToValues? items hvalues, Bool.true_and]
          exact eq_true_of_ne_false (not_or.mp hroom).2
  | .object entries closed, h => by
      rw [toValue?] at h
      split at h
      · cases h
      · next hroom =>
          obtain ⟨values, hvalues, -⟩ := Option.map_eq_some_iff.mp h
          rw [isComplete, entriesComplete_of_entriesToValues? entries hvalues, Bool.true_and]
          exact eq_true_of_ne_false (not_or.mp hroom).2
  | .broken, h => nomatch h

theorem itemsComplete_of_itemsToValues? {room : Nat} {values : List Value} : (items : List Tree) →
    itemsToValues? room items = some values → itemsComplete items = true
  | [], _ => rfl
  | item :: rest, h => by
      rw [itemsToValues?, Option.bind_eq_some_iff] at h
      obtain ⟨first, hfirst, h⟩ := h
      obtain ⟨others, hothers, -⟩ := Option.map_eq_some_iff.mp h
      rw [itemsComplete, isComplete_of_toValue? item hfirst,
        itemsComplete_of_itemsToValues? rest hothers, Bool.and_self]

theorem entriesComplete_of_entriesToValues? {room : Nat} {values : List (String × Value)} :
    (entries : List (Option String × Tree)) → entriesToValues? room entries = some values →
    entriesComplete entries = true
  | [], _ => rfl
  | (key?, tree) :: rest, h => by
      rw [entriesToValues?, Option.bind_eq_some_iff] at h
      obtain ⟨key, -, h⟩ := h
      obtain ⟨first, hfirst, h⟩ := Option.bind_eq_some_iff.mp h
      obtain ⟨others, hothers, -⟩ := Option.map_eq_some_iff.mp h
      rw [entriesComplete, isComplete_of_toValue? tree hfirst,
        entriesComplete_of_entriesToValues? rest hothers, Bool.and_self]

end

theorem isSome_itemsToValues? {room : Nat} {items : List Tree} :
    (itemsToValues? room items).isSome = true ↔
      ∀ item ∈ items, (item.toValue? room).isSome = true := by
  induction items with
  | nil => simp [itemsToValues?]
  | cons item rest ih =>
      rw [itemsToValues?, List.forall_mem_cons, ← ih]
      cases item.toValue? room <;> simp

theorem isSome_entriesToValues? {room : Nat} {entries : List (Option String × Tree)} :
    (entriesToValues? room entries).isSome = true ↔
      ∀ entry ∈ entries, entry.1.isSome = true ∧ (entry.2.toValue? room).isSome = true := by
  induction entries with
  | nil => simp [entriesToValues?]
  | cons entry rest ih =>
      obtain ⟨key?, tree⟩ := entry
      rw [entriesToValues?, List.forall_mem_cons, ← ih]
      cases key? with
      | none => simp
      | some key => cases tree.toValue? room <;> simp

theorem isSome_toValue?_array {room : Nat} {items : List Tree} {closed : Bool} :
    ((Tree.array items closed).toValue? (room + 1)).isSome = true ↔
      closed = true ∧ ∀ item ∈ items, (item.toValue? room).isSome = true := by
  rw [toValue?, ← isSome_itemsToValues?]
  cases closed <;> simp

theorem isSome_toValue?_object {room : Nat} {entries : List (Option String × Tree)}
    {closed : Bool} :
    ((Tree.object entries closed).toValue? (room + 1)).isSome = true ↔
      closed = true ∧ ∀ entry ∈ entries,
        entry.1.isSome = true ∧ (entry.2.toValue? room).isSome = true := by
  rw [toValue?, ← isSome_entriesToValues?]
  cases closed <;> simp

end Tree

/-- A tree that spells a value still spells one when it has been edited. -/
def Edit.KeepsValues (edit : Edit) : Prop :=
  ∀ ⦃room : Nat⦄ ⦃tree tree' : Tree⦄, edit room tree tree' →
    (tree.toValue? room).isSome = true → (tree'.toValue? room).isSome = true

section KeepsValues

variable {room : Nat} {fields : Entries Edit}

theorem EditsFields.keepsValues (hfields : ∀ field ∈ fields, field.2.KeepsValues)
    {entries entries' : List (Option String × Tree)} (h : EditsFields fields room entries entries')
    (hvalues : ∀ entry ∈ entries, entry.1.isSome = true ∧ (entry.2.toValue? room).isSome = true) :
    ∀ entry ∈ entries', entry.1.isSome = true ∧ (entry.2.toValue? room).isSome = true := by
  induction h with
  | reorder hperm => exact fun entry hentry => hvalues entry (hperm.mem_iff.mpr hentry)
  | insert _ hreadable =>
      refine List.forall_mem_cons.mpr ⟨⟨rfl, ?_⟩, hvalues⟩
      rw [hreadable]
      rfl
  | delete _ => exact (List.forall_mem_cons.mp hvalues).2
  | change hknown hedited =>
      rw [List.forall_mem_cons] at hvalues ⊢
      exact ⟨⟨rfl, hfields _ hknown hedited hvalues.1.2⟩, hvalues.2⟩
  | trans _ _ ihfirst ihsecond => exact ihsecond (ihfirst hvalues)

theorem EditsItems.keepsValues (hfields : ∀ field ∈ fields, field.2.KeepsValues)
    {items items' : List Tree} (h : EditsItems room fields items items')
    (hvalues : ∀ item ∈ items, (item.toValue? room).isSome = true) :
    ∀ item ∈ items', (item.toValue? room).isSome = true := by
  induction h with
  | nil => exact hvalues
  | cons hfirst _ ih =>
      rw [List.forall_mem_cons] at hfields hvalues ⊢
      exact ⟨hfields.1 hfirst hvalues.1, ih hfields.2 hvalues.2⟩

namespace Edit

theorem keepsValues_keep : keep.KeepsValues := by
  rintro room tree _ rfl hvalue
  exact hvalue

theorem KeepsValues.optional {edit : Edit} (h : edit.KeepsValues) :
    KeepsValues (optional edit) := by
  rintro room tree tree' (_ | ⟨_, _, hedited⟩) hvalue
  · exact hvalue
  · exact h hedited hvalue

theorem KeepsValues.items {edit : Edit} (h : edit.KeepsValues) : KeepsValues (items edit) := by
  rintro _ _ _ ⟨hedited⟩ hvalue
  rw [Tree.isSome_toValue?_array] at hvalue ⊢
  refine ⟨hvalue.1, fun item hitem => ?_⟩
  obtain ⟨tree, htree, hedit⟩ := exists_left_of_forall₂ hedited hitem
  exact h hedit (hvalue.2 tree htree)

theorem KeepsValues.values {edit : Edit} (h : edit.KeepsValues) : KeepsValues (values edit) := by
  rintro _ _ _ ⟨hedited⟩ hvalue
  rw [Tree.isSome_toValue?_object] at hvalue ⊢
  refine ⟨hvalue.1, fun entry hentry => ?_⟩
  obtain ⟨other, hother, hkey, hedit⟩ := exists_left_of_forall₂ hedited hentry
  rw [hkey]
  exact ⟨(hvalue.2 other hother).1, h hedit (hvalue.2 other hother).2⟩

theorem keepsValues_record (hfields : ∀ field ∈ fields, field.2.KeepsValues) :
    KeepsValues (record fields) := by
  rintro _ _ _ (_ | hedited | hedited) hvalue
  · exact hvalue
  · rw [Tree.isSome_toValue?_object] at hvalue ⊢
    exact ⟨hvalue.1, hedited.keepsValues hfields hvalue.2⟩
  · rw [Tree.isSome_toValue?_array] at hvalue ⊢
    exact ⟨hvalue.1, hedited.keepsValues hfields hvalue.2⟩

end Edit

end KeepsValues

end ShapeCatalog.Json
