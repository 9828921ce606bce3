import ShapeCatalog.Json.Reader
import ShapeCatalog.Proofs.RereadNumbers

/-!
Values that keep through writing and reading.  A value is regular if its integers fit 64 bits and
none of its objects repeats a key, and exact if it has no doubles either.  The tree of a regular
value spells a value wherever there is room for its containers, and nothing where there is not: the
same value, but for what becomes of its doubles.  What a tree spells is regular, and fits the room.
-/

namespace ShapeCatalog.Json

namespace Value

mutual

def isDoubleFree : Value → Bool
  | .number (.double _) => false
  | .array items => itemsDoubleFree items
  | .object entries => entriesDoubleFree entries
  | _ => true

def itemsDoubleFree : List Value → Bool
  | [] => true
  | item :: rest => item.isDoubleFree && itemsDoubleFree rest

def entriesDoubleFree : List (String × Value) → Bool
  | [] => true
  | (_, value) :: rest => value.isDoubleFree && entriesDoubleFree rest

end

mutual

/-- Whether a value has no doubles, its integers fit 64 bits, and no key comes twice
in an object. -/
def isExact : Value → Bool
  | .number (.integer value) =>
      decide (-Literal.signedBound ≤ value) && decide (value < Literal.unsignedBound)
  | .number (.double _) => false
  | .array items => itemsExact items
  | .object entries => decide (Entries.keys entries).Nodup && entriesExact entries
  | _ => true

def itemsExact : List Value → Bool
  | [] => true
  | item :: rest => item.isExact && itemsExact rest

def entriesExact : List (String × Value) → Bool
  | [] => true
  | (_, value) :: rest => value.isExact && entriesExact rest

end

mutual

/-- Whether the integers of a value fit 64 bits, and no key comes twice in an object. -/
def isRegular : Value → Bool
  | .number value => value.isRegular
  | .array items => itemsRegular items
  | .object entries => decide (Entries.keys entries).Nodup && entriesRegular entries
  | _ => true

def itemsRegular : List Value → Bool
  | [] => true
  | item :: rest => item.isRegular && itemsRegular rest

def entriesRegular : List (String × Value) → Bool
  | [] => true
  | (_, value) :: rest => value.isRegular && entriesRegular rest

end

mutual

/-- Exact is what is regular and has no doubles. -/
theorem isExact_eq : (value : Value) → value.isExact = (value.isRegular && value.isDoubleFree)
  | .null | .bool _ | .string _ => rfl
  | .number (.integer _) => (Bool.and_true _).symm
  | .number (.double _) => rfl
  | .array items => itemsExact_eq items
  | .object entries => by
      rw [isExact, isRegular, isDoubleFree, entriesExact_eq entries, Bool.and_assoc]

theorem itemsExact_eq : (items : List Value) →
    itemsExact items = (itemsRegular items && itemsDoubleFree items)
  | [] => rfl
  | item :: rest => by
      rw [itemsExact, itemsRegular, itemsDoubleFree, isExact_eq item, itemsExact_eq rest]
      ac_rfl

theorem entriesExact_eq : (entries : List (String × Value)) →
    entriesExact entries = (entriesRegular entries && entriesDoubleFree entries)
  | [] => rfl
  | (_, value) :: rest => by
      rw [entriesExact, entriesRegular, entriesDoubleFree, isExact_eq value, entriesExact_eq rest]
      ac_rfl

end

theorem isExact_iff {value : Value} :
    value.isExact = true ↔ value.isRegular = true ∧ value.isDoubleFree = true := by
  rw [isExact_eq, Bool.and_eq_true]

theorem itemsDoubleFree_iff {items : List Value} :
    itemsDoubleFree items = true ↔ ∀ item ∈ items, item.isDoubleFree = true := by
  induction items with
  | nil => simp [itemsDoubleFree]
  | cons item rest ih => simp [itemsDoubleFree, ih]

theorem entriesDoubleFree_iff {entries : List (String × Value)} :
    entriesDoubleFree entries = true ↔ ∀ entry ∈ entries, entry.2.isDoubleFree = true := by
  induction entries with
  | nil => simp [entriesDoubleFree]
  | cons entry rest ih => simp [entriesDoubleFree, ih]

theorem itemsRegular_iff {items : List Value} :
    itemsRegular items = true ↔ ∀ item ∈ items, item.isRegular = true := by
  induction items with
  | nil => simp [itemsRegular]
  | cons item rest ih => simp [itemsRegular, ih]

theorem entriesRegular_iff {entries : List (String × Value)} :
    entriesRegular entries = true ↔ ∀ entry ∈ entries, entry.2.isRegular = true := by
  induction entries with
  | nil => simp [entriesRegular]
  | cons entry rest ih => simp [entriesRegular, ih]

theorem itemsExact_iff {items : List Value} :
    itemsExact items = true ↔ ∀ item ∈ items, item.isExact = true := by
  induction items with
  | nil => simp [itemsExact]
  | cons item rest ih => simp [itemsExact, ih]

theorem entriesExact_iff {entries : List (String × Value)} :
    entriesExact entries = true ↔ ∀ entry ∈ entries, entry.2.isExact = true := by
  induction entries with
  | nil => simp [entriesExact]
  | cons entry rest ih => simp [entriesExact, ih]

/-- Whether a check passes a value as soon as it passes what the value is made of. -/
structure Compositional (check : Value → Bool) : Prop where
  string : ∀ text, check (.string text) = true
  array : ∀ {items}, (∀ item ∈ items, check item = true) → check (.array items) = true
  object : ∀ {entries}, (Entries.keys entries).Nodup → (∀ entry ∈ entries, check entry.2 = true) →
    check (.object entries) = true

theorem compositional_isDoubleFree : Compositional isDoubleFree where
  string _ := rfl
  array hitems := itemsDoubleFree_iff.mpr hitems
  object _ hentries := entriesDoubleFree_iff.mpr hentries

theorem compositional_isExact : Compositional isExact where
  string _ := rfl
  array hitems := itemsExact_iff.mpr hitems
  object hnodup hentries := by
    rw [isExact, Bool.and_eq_true, decide_eq_true_eq]
    exact ⟨hnodup, entriesExact_iff.mpr hentries⟩

theorem depthItems_le_iff {items : List Value} {bound : Nat} :
    depthItems items ≤ bound ↔ ∀ item ∈ items, item.depth ≤ bound := by
  induction items with
  | nil => simp [depthItems]
  | cons item rest ih => rw [depthItems, Nat.max_le, ih, List.forall_mem_cons]

theorem depthEntries_le_iff {entries : List (String × Value)} {bound : Nat} :
    depthEntries entries ≤ bound ↔ ∀ entry ∈ entries, entry.2.depth ≤ bound := by
  induction entries with
  | nil => simp [depthEntries]
  | cons entry rest ih => rw [depthEntries, Nat.max_le, ih, List.forall_mem_cons]

mutual

/-- The tree that the text of a value spells. -/
def toTree : Value → Tree
  | .null => .null
  | .bool value => .bool value
  | .number value => .number value.toLiteral
  | .string value => .string (some value)
  | .array items => .array (itemTrees items) true
  | .object entries => .object (entryTrees entries) true

def itemTrees : List Value → List Tree
  | [] => []
  | item :: rest => item.toTree :: itemTrees rest

def entryTrees : List (String × Value) → List (Option String × Tree)
  | [] => []
  | (key, value) :: rest => (some key, value.toTree) :: entryTrees rest

end

mutual

/-- A value with every number as it is read again. -/
def reread : Value → Value
  | .number value => .number value.reread
  | .array items => .array (itemsReread items)
  | .object entries => .object (entriesReread entries)
  | value => value

def itemsReread : List Value → List Value
  | [] => []
  | item :: rest => item.reread :: itemsReread rest

def entriesReread : List (String × Value) → List (String × Value)
  | [] => []
  | (key, value) :: rest => (key, value.reread) :: entriesReread rest

end

theorem keys_entriesReread (entries : List (String × Value)) :
    Entries.keys (entriesReread entries) = Entries.keys entries := by
  induction entries with
  | nil => rfl
  | cons entry rest ih => exact congrArg (entry.1 :: ·) ih

theorem itemsReread_eq_self_iff {items : List Value} :
    itemsReread items = items ↔ ∀ item ∈ items, item.reread = item := by
  induction items with
  | nil => simp [itemsReread]
  | cons item rest ih => rw [itemsReread, List.cons.injEq, List.forall_mem_cons, ih]

theorem entriesReread_eq_self_iff {entries : List (String × Value)} :
    entriesReread entries = entries ↔ ∀ entry ∈ entries, entry.2.reread = entry.2 := by
  induction entries with
  | nil => simp [entriesReread]
  | cons entry rest ih =>
      rw [entriesReread, List.cons.injEq, Prod.ext_iff, and_iff_right rfl, List.forall_mem_cons, ih]

theorem reread_array_eq_self_iff {items : List Value} :
    (Value.array items).reread = .array items ↔ ∀ item ∈ items, item.reread = item := by
  rw [reread, Value.array.injEq, itemsReread_eq_self_iff]

theorem reread_object_eq_self_iff {entries : List (String × Value)} :
    (Value.object entries).reread = .object entries ↔
      ∀ entry ∈ entries, entry.2.reread = entry.2 := by
  rw [reread, Value.object.injEq, entriesReread_eq_self_iff]

mutual

/-- Only doubles may be read as others. -/
theorem reread_of_isExact : (value : Value) → value.isExact = true → value.reread = value
  | .null, _ | .bool _, _ | .string _, _ => rfl
  | .number (.integer _), hexact => congrArg Value.number (Number.reread_integer hexact)
  | .number (.double _), hexact => nomatch hexact
  | .array items, hexact => congrArg Value.array (itemsReread_of_itemsExact items hexact)
  | .object entries, hexact => by
      rw [isExact, Bool.and_eq_true] at hexact
      exact congrArg Value.object (entriesReread_of_entriesExact entries hexact.2)

theorem itemsReread_of_itemsExact : (items : List Value) → itemsExact items = true →
    itemsReread items = items
  | [], _ => rfl
  | item :: rest, hexact => by
      rw [itemsExact, Bool.and_eq_true] at hexact
      rw [itemsReread, reread_of_isExact item hexact.1, itemsReread_of_itemsExact rest hexact.2]

theorem entriesReread_of_entriesExact : (entries : List (String × Value)) →
    entriesExact entries = true → entriesReread entries = entries
  | [], _ => rfl
  | (_, value) :: rest, hexact => by
      rw [entriesExact, Bool.and_eq_true] at hexact
      rw [entriesReread, reread_of_isExact value hexact.1,
        entriesReread_of_entriesExact rest hexact.2]

end

mutual

/-- The tree of a regular value spells that value, its numbers read again, if there is room for its
containers, and nothing otherwise. -/
theorem toValue?_toTree {room : Nat} : (value : Value) → value.isRegular = true →
    value.toTree.toValue? room = if value.depth ≤ room then some value.reread else none
  | .null, _ | .bool _, _ | .string _, _ => rfl
  | .number value, hregular => by
      simp [toTree, Tree.toValue?, depth, reread, Number.ofLiteral?_toLiteral hregular]
  | .array items, hregular => by
      rw [isRegular] at hregular
      rw [toTree, Tree.toValue?, depth, reread]
      cases room with
      | zero => simp
      | succ inner => simp [toValue?_itemTrees items hregular, apply_ite]
  | .object entries, hregular => by
      simp only [isRegular, Bool.and_eq_true, decide_eq_true_eq] at hregular
      have hnodup : (Entries.keys (entriesReread entries)).Nodup := by
        rw [keys_entriesReread]
        exact hregular.1
      rw [toTree, Tree.toValue?, depth, reread]
      cases room with
      | zero => simp
      | succ inner =>
          simp [toValue?_entryTrees entries hregular.2, apply_ite, Entries.ofList_of_nodup hnodup]

theorem toValue?_itemTrees {room : Nat} : (items : List Value) → itemsRegular items = true →
    Tree.itemsToValues? room (itemTrees items)
      = if depthItems items ≤ room then some (itemsReread items) else none
  | [], _ => rfl
  | item :: rest, hregular => by
      simp only [itemsRegular, Bool.and_eq_true] at hregular
      rw [itemTrees, Tree.itemsToValues?, toValue?_toTree item hregular.1,
        toValue?_itemTrees rest hregular.2, depthItems]
      by_cases hitem : item.depth ≤ room <;> by_cases hrest : depthItems rest ≤ room <;>
        simp only [Nat.max_le, hitem, hrest] <;> rfl

theorem toValue?_entryTrees {room : Nat} : (entries : List (String × Value)) →
    entriesRegular entries = true → Tree.entriesToValues? room (entryTrees entries)
      = if depthEntries entries ≤ room then some (entriesReread entries) else none
  | [], _ => rfl
  | (key, value) :: rest, hregular => by
      simp only [entriesRegular, Bool.and_eq_true] at hregular
      rw [entryTrees, Tree.entriesToValues?, Option.bind_some, toValue?_toTree value hregular.1,
        toValue?_entryTrees rest hregular.2, depthEntries]
      by_cases hvalue : value.depth ≤ room <;> by_cases hrest : depthEntries rest ≤ room <;>
        simp only [Nat.max_le, hvalue, hrest] <;> rfl

end

/-- A regular value with no more than so many containers open at once. -/
structure Within (bound : Nat) (value : Value) : Prop where
  depth_le : value.depth ≤ bound
  regular : value.isRegular = true

theorem Within.isExact {bound : Nat} {value : Value} (h : value.Within bound)
    (hfree : value.isDoubleFree = true) : value.isExact = true :=
  isExact_iff.mpr ⟨h.regular, hfree⟩

theorem Within.mono {bound bound' : Nat} {value : Value} (h : value.Within bound)
    (hle : bound ≤ bound') : value.Within bound' :=
  ⟨Nat.le_trans h.depth_le hle, h.regular⟩

theorem within_array {bound : Nat} {items : List Value} (h : ∀ item ∈ items, item.Within bound) :
    (Value.array items).Within (bound + 1) where
  depth_le := by
    rw [depth, Nat.add_le_add_iff_right, depthItems_le_iff]
    exact fun item hitem => (h item hitem).depth_le
  regular := itemsRegular_iff.mpr fun item hitem => (h item hitem).regular

theorem within_object {bound : Nat} {entries : List (String × Value)}
    (hnodup : (Entries.keys entries).Nodup) (h : ∀ entry ∈ entries, entry.2.Within bound) :
    (Value.object entries).Within (bound + 1) where
  depth_le := by
    rw [depth, Nat.add_le_add_iff_right, depthEntries_le_iff]
    exact fun entry hentry => (h entry hentry).depth_le
  regular := by
    rw [isRegular, Bool.and_eq_true, decide_eq_true_eq]
    exact ⟨hnodup, entriesRegular_iff.mpr fun entry hentry => (h entry hentry).regular⟩

mutual

/-- What a tree spells fits the room. -/
theorem within_of_toValue? {room : Nat} {value : Value} : (tree : Tree) →
    tree.toValue? room = some value → value.Within room
  | .null, h => by
      obtain rfl := Option.some.inj h
      exact ⟨Nat.zero_le _, rfl⟩
  | .bool _, h => by
      obtain rfl := Option.some.inj h
      exact ⟨Nat.zero_le _, rfl⟩
  | .number literal, h => by
      rw [Tree.toValue?, Option.map_eq_some_iff] at h
      obtain ⟨number, hnumber, rfl⟩ := h
      exact ⟨Nat.zero_le _, Number.isRegular_of_ofLiteral? hnumber⟩
  | .string text, h => by
      rw [Tree.toValue?, Option.map_eq_some_iff] at h
      obtain ⟨string, -, rfl⟩ := h
      exact ⟨Nat.zero_le _, rfl⟩
  | .array items closed, h => by
      rw [Tree.toValue?] at h
      split at h
      · cases h
      · next hroom =>
          obtain ⟨values, hvalues, rfl⟩ := Option.map_eq_some_iff.mp h
          have hpos : room - 1 + 1 = room := Nat.succ_pred (not_or.mp hroom).1
          rw [← hpos]
          exact within_array (within_of_itemsToValues? items hvalues)
  | .object entries closed, h => by
      rw [Tree.toValue?] at h
      split at h
      · cases h
      · next hroom =>
          obtain ⟨values, hvalues, rfl⟩ := Option.map_eq_some_iff.mp h
          have hpos : room - 1 + 1 = room := Nat.succ_pred (not_or.mp hroom).1
          rw [← hpos]
          refine within_object (Entries.nodup_keys_ofList values) fun entry hentry => ?_
          exact within_of_entriesToValues? entries hvalues entry
            (Entries.mem_of_mem_ofList hentry)
  | .broken, h => nomatch h

theorem within_of_itemsToValues? {room : Nat} {values : List Value} : (items : List Tree) →
    Tree.itemsToValues? room items = some values → ∀ value ∈ values, value.Within room
  | [], h => by
      obtain rfl := Option.some.inj h
      exact List.forall_mem_nil _
  | item :: rest, h => by
      rw [Tree.itemsToValues?, Option.bind_eq_some_iff] at h
      obtain ⟨first, hfirst, h⟩ := h
      obtain ⟨others, hothers, rfl⟩ := Option.map_eq_some_iff.mp h
      rw [List.forall_mem_cons]
      exact ⟨within_of_toValue? item hfirst, within_of_itemsToValues? rest hothers⟩

theorem within_of_entriesToValues? {room : Nat} {values : List (String × Value)} :
    (entries : List (Option String × Tree)) →
    Tree.entriesToValues? room entries = some values → ∀ entry ∈ values, entry.2.Within room
  | [], h => by
      obtain rfl := Option.some.inj h
      exact List.forall_mem_nil _
  | (key?, tree) :: rest, h => by
      rw [Tree.entriesToValues?, Option.bind_eq_some_iff] at h
      obtain ⟨key, -, h⟩ := h
      obtain ⟨first, hfirst, h⟩ := Option.bind_eq_some_iff.mp h
      obtain ⟨others, hothers, rfl⟩ := Option.map_eq_some_iff.mp h
      rw [List.forall_mem_cons]
      exact ⟨within_of_toValue? tree hfirst, within_of_entriesToValues? rest hothers⟩

end

end Value

end ShapeCatalog.Json
