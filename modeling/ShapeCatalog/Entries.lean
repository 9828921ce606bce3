/-!
Keyed entries in a definite order.  A plain list of entries may repeat a key; an `OrderedMap` holds
each key once, in order of first arrival, and a `SortedMap` holds each key once, in increasing
order.  Both keep the last value that was put at a key.
-/

namespace ShapeCatalog

universe u

variable {α : Type u}

/-- Keys with their values, in order. -/
abbrev Entries (α : Type u) := List (String × α)

namespace Entries

def keys (entries : Entries α) : List String :=
  entries.map Prod.fst

/-- Put a value at a key: in the key's place if it is there already, else at the end. -/
def put (key : String) (value : α) : Entries α → Entries α
  | [] => [(key, value)]
  | entry :: rest =>
      if entry.1 = key then (key, value) :: rest else entry :: put key value rest

/-- Put every entry of a list, one after the other. -/
def ofList (entries : Entries α) : Entries α :=
  entries.foldl (fun map entry => put entry.1 entry.2 map) []

/-- Put a value at a key of an increasing list, where the order has its place. -/
def putSorted (key : String) (value : α) : Entries α → Entries α
  | [] => [(key, value)]
  | entry :: rest =>
      if key < entry.1 then (key, value) :: entry :: rest
      else if entry.1 = key then (key, value) :: rest
      else entry :: putSorted key value rest

theorem mem_keys_put {key other : String} {value : α} {entries : Entries α} :
    other ∈ keys (put key value entries) ↔ other = key ∨ other ∈ keys entries := by
  induction entries with
  | nil => simp [put, keys]
  | cons entry rest ih =>
      by_cases h : entry.1 = key
      · simp [put, keys, h]
      · simp only [keys] at ih
        simp only [put, keys, h, if_false, List.map_cons, List.mem_cons, ih]
        constructor <;> rintro (h | h | h) <;> simp [h]

theorem nodup_keys_put {key : String} {value : α} {entries : Entries α}
    (hnodup : (keys entries).Nodup) : (keys (put key value entries)).Nodup := by
  induction entries with
  | nil => simp [put, keys]
  | cons entry rest ih =>
      simp only [keys, List.map_cons, List.nodup_cons] at hnodup
      by_cases h : entry.1 = key
      · simp only [put, h, if_true, keys, List.map_cons, List.nodup_cons]
        exact h ▸ hnodup
      · have hrest := ih hnodup.2
        have hnot : entry.1 ∉ keys (put key value rest) := by
          rw [mem_keys_put]
          rintro (heq | hmem)
          · exact h heq
          · exact hnodup.1 hmem
        simp only [put, h, if_false, keys, List.map_cons, List.nodup_cons]
        exact ⟨hnot, hrest⟩

theorem nodup_keys_foldl_put (entries : Entries α) {start : Entries α}
    (hstart : (keys start).Nodup) :
    (keys (entries.foldl (fun map entry => put entry.1 entry.2 map) start)).Nodup := by
  induction entries generalizing start with
  | nil => exact hstart
  | cons entry rest ih => exact ih (nodup_keys_put hstart)

theorem nodup_keys_ofList (entries : Entries α) : (keys (ofList entries)).Nodup :=
  nodup_keys_foldl_put entries (by simp [keys])

theorem put_of_not_mem {key : String} {value : α} {entries : Entries α}
    (hnot : key ∉ keys entries) : put key value entries = entries ++ [(key, value)] := by
  induction entries with
  | nil => rfl
  | cons entry rest ih =>
      simp only [keys, List.map_cons, List.mem_cons, not_or] at hnot
      have hne : entry.1 ≠ key := fun heq => hnot.1 heq.symm
      simp only [put, hne, if_false, List.cons_append]
      rw [ih hnot.2]

theorem foldl_put_of_nodup (entries : Entries α) {start : Entries α}
    (hnodup : (keys (start ++ entries)).Nodup) :
    entries.foldl (fun map entry => put entry.1 entry.2 map) start = start ++ entries := by
  induction entries generalizing start with
  | nil => simp
  | cons entry rest ih =>
      have hkeys : keys (start ++ entry :: rest) = keys start ++ entry.1 :: keys rest := by
        simp [keys]
      rw [hkeys, List.nodup_append] at hnodup
      have hnot : entry.1 ∉ keys start := fun hmem =>
        hnodup.2.2 entry.1 hmem entry.1 (by simp) rfl
      rw [List.foldl_cons, put_of_not_mem hnot, ih]
      · simp
      · rw [List.append_assoc, List.singleton_append, hkeys, List.nodup_append]
        exact hnodup

/-- A list that holds each key once is its own map. -/
theorem ofList_of_nodup {entries : Entries α} (hnodup : (keys entries).Nodup) :
    ofList entries = entries :=
  foldl_put_of_nodup entries hnodup

theorem mem_put {key : String} {value : α} {entries : Entries α} {entry : String × α}
    (h : entry ∈ put key value entries) : entry = (key, value) ∨ entry ∈ entries := by
  induction entries with
  | nil => exact Or.inl (List.mem_singleton.mp h)
  | cons first rest ih =>
      by_cases hkey : first.1 = key
      · simp only [put, hkey, if_true, List.mem_cons] at h
        rcases h with rfl | h
        · exact Or.inl rfl
        · exact Or.inr (List.mem_cons_of_mem first h)
      · simp only [put, hkey, if_false, List.mem_cons] at h
        rcases h with rfl | h
        · exact Or.inr List.mem_cons_self
        · exact (ih h).imp_right (List.mem_cons_of_mem first)

theorem mem_foldl_put {entries start : Entries α} {entry : String × α}
    (h : entry ∈ entries.foldl (fun map entry => put entry.1 entry.2 map) start) :
    entry ∈ start ∨ entry ∈ entries := by
  induction entries generalizing start with
  | nil => exact Or.inl h
  | cons first rest ih =>
      rcases ih h with h | h
      · rcases mem_put h with rfl | h
        · exact Or.inr List.mem_cons_self
        · exact Or.inl h
      · exact Or.inr (List.mem_cons_of_mem first h)

/-- A map holds nothing but what was put. -/
theorem mem_of_mem_ofList {entries : Entries α} {entry : String × α}
    (h : entry ∈ ofList entries) : entry ∈ entries :=
  (mem_foldl_put h).resolve_left List.not_mem_nil

theorem lookup_cons_of_ne {key other : String} {value : α} {rest : Entries α}
    (hne : other ≠ key) : List.lookup other ((key, value) :: rest) = rest.lookup other := by
  rw [List.lookup_cons, beq_false_of_ne hne]

/-- Putting a value at a key changes what is found at that key, and at no other. -/
theorem lookup_put {key other : String} {value : α} {entries : Entries α} :
    (put key value entries).lookup other =
      if other = key then some value else entries.lookup other := by
  induction entries with
  | nil =>
      by_cases h : other = key
      · simp [put, h]
      · simp only [put, h, if_false, lookup_cons_of_ne h]
  | cons entry rest ih =>
      obtain ⟨first, old⟩ := entry
      by_cases hkey : first = key
      · by_cases h : other = key
        · simp [put, hkey, h]
        · simp only [put, hkey, h, if_true, if_false, lookup_cons_of_ne h]
      · by_cases h : other = first
        · simp [put, hkey, h]
        · simp only [put, hkey, if_false, lookup_cons_of_ne h, ih]

theorem mem_keys_putSorted {key other : String} {value : α} {entries : Entries α} :
    other ∈ keys (putSorted key value entries) ↔ other = key ∨ other ∈ keys entries := by
  induction entries with
  | nil => simp [putSorted, keys]
  | cons entry rest ih =>
      simp only [keys] at ih
      by_cases hlt : key < entry.1
      · simp [putSorted, keys, hlt]
      · by_cases h : entry.1 = key
        · simp [putSorted, keys, h]
        · simp only [putSorted, keys, hlt, h, if_false, List.map_cons, List.mem_cons, ih]
          constructor <;> rintro (h | h | h) <;> simp [h]

theorem mem_putSorted {key : String} {value : α} {entries : Entries α} {entry : String × α}
    (h : entry ∈ putSorted key value entries) : entry = (key, value) ∨ entry ∈ entries := by
  induction entries with
  | nil => exact Or.inl (List.mem_singleton.mp h)
  | cons first rest ih =>
      by_cases hlt : key < first.1
      · rw [putSorted, if_pos hlt] at h
        exact List.mem_cons.mp h
      · by_cases hkey : first.1 = key
        · rw [putSorted, if_neg hlt, if_pos hkey] at h
          exact (List.mem_cons.mp h).imp_right (List.mem_cons_of_mem first)
        · rw [putSorted, if_neg hlt, if_neg hkey] at h
          rcases List.mem_cons.mp h with rfl | h
          · exact Or.inr List.mem_cons_self
          · exact (ih h).imp_right (List.mem_cons_of_mem first)

theorem mem_foldl_putSorted {entries start : Entries α} {entry : String × α}
    (h : entry ∈ entries.foldl (fun map entry => putSorted entry.1 entry.2 map) start) :
    entry ∈ start ∨ entry ∈ entries := by
  induction entries generalizing start with
  | nil => exact Or.inl h
  | cons first rest ih =>
      rcases ih h with h | h
      · rcases mem_putSorted h with rfl | h
        · exact Or.inr List.mem_cons_self
        · exact Or.inl h
      · exact Or.inr (List.mem_cons_of_mem first h)

theorem increasing_keys_putSorted {key : String} {value : α} {entries : Entries α}
    (hsorted : (keys entries).Pairwise (· < ·)) :
    (keys (putSorted key value entries)).Pairwise (· < ·) := by
  induction entries with
  | nil => simp [putSorted, keys]
  | cons entry rest ih =>
      simp only [keys, List.map_cons, List.pairwise_cons] at hsorted
      by_cases hlt : key < entry.1
      · simp only [putSorted, hlt, if_true, keys, List.map_cons, List.pairwise_cons,
          List.mem_cons]
        refine ⟨?_, hsorted⟩
        rintro other (rfl | hmem)
        · exact hlt
        · exact String.lt_trans hlt (hsorted.1 other hmem)
      · by_cases h : entry.1 = key
        · rw [putSorted, if_neg hlt, if_pos h]
          simp only [keys, List.map_cons, List.pairwise_cons]
          exact h ▸ hsorted
        · have hgt : entry.1 < key := by
            apply Decidable.byContradiction
            intro hnot
            exact h (String.le_antisymm (String.not_lt.mp hlt) (String.not_lt.mp hnot))
          simp only [putSorted, hlt, h, if_false, keys, List.map_cons, List.pairwise_cons]
          refine ⟨?_, ih hsorted.2⟩
          intro other hmem
          have hmem' : other ∈ keys (putSorted key value rest) := hmem
          rw [mem_keys_putSorted] at hmem'
          rcases hmem' with rfl | hmem'
          · exact hgt
          · exact hsorted.1 other hmem'

theorem increasing_keys_foldl_putSorted (entries : Entries α) {start : Entries α}
    (hstart : (keys start).Pairwise (· < ·)) :
    (keys (entries.foldl (fun map entry => putSorted entry.1 entry.2 map) start)).Pairwise
      (· < ·) := by
  induction entries generalizing start with
  | nil => exact hstart
  | cons entry rest ih => exact ih (increasing_keys_putSorted hstart)

theorem putSorted_of_lt {key : String} {value : α} {entries : Entries α}
    (hlt : ∀ other ∈ keys entries, other < key) :
    putSorted key value entries = entries ++ [(key, value)] := by
  induction entries with
  | nil => rfl
  | cons entry rest ih =>
      have hhead : entry.1 < key := hlt entry.1 (by simp [keys])
      have hnot : ¬key < entry.1 := fun h => String.lt_irrefl _ (String.lt_trans hhead h)
      have hne : entry.1 ≠ key := fun h => String.lt_irrefl key (h ▸ hhead)
      rw [putSorted, if_neg hnot, if_neg hne, ih fun other hmem => hlt other (by
        simp only [keys, List.map_cons, List.mem_cons]
        exact Or.inr hmem)]
      rfl

theorem foldl_putSorted_of_increasing (entries : Entries α) {start : Entries α}
    (hsorted : (keys (start ++ entries)).Pairwise (· < ·)) :
    entries.foldl (fun map entry => putSorted entry.1 entry.2 map) start = start ++ entries := by
  induction entries generalizing start with
  | nil => simp
  | cons entry rest ih =>
      have hkeys : keys (start ++ entry :: rest) = keys start ++ entry.1 :: keys rest := by
        simp [keys]
      rw [hkeys, List.pairwise_append] at hsorted
      have hlt : ∀ other ∈ keys start, other < entry.1 := fun other hmem =>
        hsorted.2.2 other hmem entry.1 (by simp)
      rw [List.foldl_cons, putSorted_of_lt hlt, ih]
      · simp
      · rw [List.append_assoc, List.singleton_append, hkeys, List.pairwise_append]
        exact hsorted

end Entries

/-- A map that remembers in which order its keys first came. -/
structure OrderedMap (α : Type u) where
  entries : Entries α
  keys_nodup : (Entries.keys entries).Nodup

namespace OrderedMap

def empty : OrderedMap α :=
  ⟨[], by simp [Entries.keys]⟩

/-- The map of a list of entries: a repeated key keeps its first place and its last value. -/
def ofList (entries : Entries α) : OrderedMap α :=
  ⟨Entries.ofList entries, Entries.nodup_keys_ofList entries⟩

theorem ext_entries {a b : OrderedMap α} (h : a.entries = b.entries) : a = b := by
  cases a
  cases b
  cases h
  rfl

/-- Reading off the entries loses nothing. -/
theorem ofList_entries (map : OrderedMap α) : ofList map.entries = map :=
  ext_entries (Entries.ofList_of_nodup map.keys_nodup)

def get? (map : OrderedMap α) (key : String) : Option α :=
  map.entries.lookup key

theorem mem_of_mem_ofList {entries : Entries α} {entry : String × α}
    (h : entry ∈ (ofList entries).entries) : entry ∈ entries :=
  Entries.mem_of_mem_ofList h

def size (map : OrderedMap α) : Nat :=
  map.entries.length

def first? (map : OrderedMap α) : Option (String × α) :=
  map.entries.head?

end OrderedMap

/-- A map whose keys stand in increasing order of their code points. -/
structure SortedMap (α : Type u) where
  entries : Entries α
  keys_increasing : (Entries.keys entries).Pairwise (· < ·)

namespace SortedMap

def empty : SortedMap α :=
  ⟨[], by simp [Entries.keys]⟩

/-- The map of a list of entries: a repeated key keeps its last value. -/
def ofList (entries : Entries α) : SortedMap α :=
  ⟨entries.foldl (fun map entry => Entries.putSorted entry.1 entry.2 map) [],
    Entries.increasing_keys_foldl_putSorted entries (by simp [Entries.keys])⟩

theorem ext_entries {a b : SortedMap α} (h : a.entries = b.entries) : a = b := by
  cases a
  cases b
  cases h
  rfl

/-- Reading off the entries loses nothing. -/
theorem ofList_entries (map : SortedMap α) : ofList map.entries = map :=
  ext_entries (Entries.foldl_putSorted_of_increasing map.entries map.keys_increasing)

def get? (map : SortedMap α) (key : String) : Option α :=
  map.entries.lookup key

theorem mem_of_mem_ofList {entries : Entries α} {entry : String × α}
    (h : entry ∈ (ofList entries).entries) : entry ∈ entries :=
  (Entries.mem_foldl_putSorted h).resolve_left List.not_mem_nil

theorem keys_nodup (map : SortedMap α) : (Entries.keys map.entries).Nodup := by
  refine map.keys_increasing.imp ?_
  rintro key _ hlt rfl
  exact String.lt_irrefl key hlt

def isEmpty (map : SortedMap α) : Bool :=
  map.entries.isEmpty

end SortedMap

end ShapeCatalog
