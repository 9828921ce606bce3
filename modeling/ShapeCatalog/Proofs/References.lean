import Mathlib.Data.Finset.Card
import Mathlib.Logic.Relation
import ShapeCatalog.Example

/-!
Steps from shape to shape along references.  Where no shape is reached from itself, the number of
shapes that can still be reached goes down with every step, and it is never greater than the number
of shapes in the document.
-/

namespace ShapeCatalog

open Relation

variable {step : String → String → Prop} {id next : String}

/-- No id is reached from itself by one step or more. -/
def Acyclic (step : String → String → Prop) : Prop :=
  ∀ id, ¬TransGen step id id

theorem acyclic_of_rank (rank : String → Nat)
    (hrank : ∀ id next, step id next → rank next < rank id) : Acyclic step := by
  have hdown : ∀ {id next}, TransGen step id next → rank next < rank id := by
    intro id next hpath
    induction hpath with
    | single hstep => exact hrank _ _ hstep
    | tail _ hstep ih => exact Nat.lt_trans (hrank _ _ hstep) ih
  intro id hloop
  exact Nat.lt_irrefl _ (hdown hloop)

theorem Prelude.shape?_eq_none {id : String} : shape? id = none ↔ kind? id = none := by
  rw [shape?, Option.map_eq_none_iff]

theorem Acyclic.mono {wider : String → String → Prop} (h : Acyclic wider)
    (hstep : ∀ id next, step id next → wider id next) : Acyclic step :=
  fun id hloop => h id (TransGen.mono hstep _ _ hloop)

/-- A reference without annotations. -/
def ShapeRef.bare (target : String) : ShapeRef :=
  ⟨target, SortedMap.empty⟩

/-- The key of a map, which is followed even while it is being exemplified. -/
def Shape.keys : Shape → List String
  | .map shape => [shape.key.target]
  | _ => []

namespace Document

/-- A map leads to the target of its key. -/
def KeyStep (document : Document) (id next : String) : Prop :=
  ∃ shape, document.lookup? id = some (.map shape) ∧ shape.key.target = next

/-- A resource leads to the targets of its child resources. -/
def ResourceStep (document : Document) (id next : String) : Prop :=
  ∃ shape, document.lookup? id = some (.resource shape) ∧
    ∃ ref ∈ shape.resources, ref.target = next

/-- No map leads back to itself through keys alone. -/
def KeysAcyclic (document : Document) : Prop :=
  Acyclic document.KeyStep

/-- No resource is among its own descendants. -/
def ResourcesAcyclic (document : Document) : Prop :=
  Acyclic document.ResourceStep

/-- The ids under which the document itself has shapes; the prelude hides all others. -/
def ownIds (document : Document) : Finset String :=
  ((Entries.keys document.shapes.entries).filter fun id => (Prelude.kind? id).isNone).toFinset

variable {document : Document}

theorem card_ownIds_le (document : Document) :
    document.ownIds.card ≤ document.shapes.size := by
  have hlength : document.shapes.size = (Entries.keys document.shapes.entries).length := by
    rw [Entries.keys, List.length_map, OrderedMap.size]
  rw [hlength]
  exact Nat.le_trans (List.toFinset_card_le _) (List.length_filter_le _ _)

theorem kind?_eq_none (h : id ∈ document.ownIds) : Prelude.kind? id = none := by
  rw [ownIds, List.mem_toFinset, List.mem_filter, Option.isNone_iff_eq_none] at h
  exact h.2

/-- Only simple shapes come from the prelude; every other shape stands in the document. -/
theorem lookup_cases {shape : Shape} (h : document.lookup? id = some shape) :
    (∃ kind, Prelude.kind? id = some kind ∧ shape = .simple kind SortedMap.empty) ∨
      (Prelude.kind? id = none ∧ (id, shape) ∈ document.shapes.entries) := by
  rw [lookup?, Prelude.shape?] at h
  cases hkind : Prelude.kind? id with
  | some kind =>
      rw [hkind] at h
      exact Or.inl ⟨kind, rfl, (Option.some.inj h).symm⟩
  | none =>
      rw [hkind] at h
      obtain ⟨before, after, heq, -⟩ := List.lookup_eq_some_iff.mp h
      refine Or.inr ⟨rfl, ?_⟩
      rw [heq]
      exact List.mem_append_right before List.mem_cons_self

theorem mem_ownIds_of_lookup {shape : Shape} (h : document.lookup? id = some shape)
    (hshape : ∀ kind traits, shape ≠ .simple kind traits) : id ∈ document.ownIds := by
  rcases lookup_cases h with ⟨kind, -, heq⟩ | ⟨hkind, hmem⟩
  · exact absurd heq (hshape kind SortedMap.empty)
  · rw [ownIds, List.mem_toFinset, List.mem_filter, hkind]
    exact ⟨List.mem_map_of_mem hmem, rfl⟩

theorem mem_ownIds_of_keyStep (h : document.KeyStep id next) : id ∈ document.ownIds := by
  obtain ⟨shape, hlookup, -⟩ := h
  exact mem_ownIds_of_lookup hlookup (by simp)

theorem exists_entry_of_keyStep (h : document.KeyStep id next) :
    ∃ entry ∈ document.shapes.entries, entry.1 = id ∧ next ∈ entry.2.keys := by
  obtain ⟨shape, hlookup, rfl⟩ := h
  rcases lookup_cases hlookup with ⟨kind, -, heq⟩ | ⟨-, hmem⟩
  · cases heq
  · exact ⟨_, hmem, rfl, List.mem_cons_self⟩

/-- No map leads back to itself through keys alone if keys stand lower than the maps that
they are keys of. -/
theorem keysAcyclic_of_height (height : String → Nat) (h : ∀ entry ∈ document.shapes.entries,
    ∀ key ∈ entry.2.keys, height key < height entry.1) : document.KeysAcyclic := by
  apply acyclic_of_rank height
  intro id next hstep
  obtain ⟨entry, hentry, rfl, hkey⟩ := exists_entry_of_keyStep hstep
  exact h entry hentry next hkey

theorem mem_ownIds_of_resourceStep (h : document.ResourceStep id next) :
    id ∈ document.ownIds := by
  obtain ⟨shape, hlookup, -⟩ := h
  exact mem_ownIds_of_lookup hlookup (by simp)

open Classical in
/-- The shapes of the document that steps from an id lead to, the first among them. -/
noncomputable def reached (document : Document) (step : String → String → Prop) (id : String) :
    Finset String :=
  document.ownIds.filter (ReflTransGen step id)

/-- The number of shapes of the document that steps from an id lead to. -/
noncomputable def rank (document : Document) (step : String → String → Prop) (id : String) : Nat :=
  (document.reached step id).card

theorem mem_reached {other : String} :
    other ∈ document.reached step id ↔ other ∈ document.ownIds ∧ ReflTransGen step id other := by
  classical
  rw [reached, Finset.mem_filter]

theorem rank_le (document : Document) (step : String → String → Prop) (id : String) :
    document.rank step id ≤ document.shapes.size := by
  classical
  exact Nat.le_trans (Finset.card_filter_le _ _) document.card_ownIds_le

theorem rank_pos (hid : id ∈ document.ownIds) : 0 < document.rank step id :=
  Finset.card_pos.mpr ⟨id, mem_reached.mpr ⟨hid, .refl⟩⟩

/-- What can be reached after a step could be reached before it; where it started cannot, if it is
not reached from itself. -/
theorem rank_lt_of_not_back (hback : ¬TransGen step id id) (hid : id ∈ document.ownIds)
    (hstep : step id next) : document.rank step next < document.rank step id := by
  apply Finset.card_lt_card
  refine ⟨?_, ?_⟩
  · intro other hother
    rw [mem_reached] at hother ⊢
    exact ⟨hother.1, .head hstep hother.2⟩
  · intro hsubset
    have hloop := (mem_reached.mp (hsubset (mem_reached.mpr ⟨hid, .refl⟩))).2
    exact hback (.head' hstep hloop)

theorem rank_lt_of_step (hacyclic : Acyclic step) (hid : id ∈ document.ownIds)
    (hstep : step id next) : document.rank step next < document.rank step id :=
  rank_lt_of_not_back (hacyclic id) hid hstep

/-- Nothing of the document is reached from an id at which it has no shape and no step starts. -/
theorem rank_eq_zero (hid : id ∉ document.ownIds) (hstep : ∀ next, ¬step id next) :
    document.rank step id = 0 := by
  rw [rank, Finset.card_eq_zero, Finset.eq_empty_iff_forall_notMem]
  intro other hother
  rw [mem_reached] at hother
  rcases ReflTransGen.cases_head hother.2 with rfl | ⟨next, hnext, -⟩
  · exact hid hother.1
  · exact hstep next hnext

end Document

end ShapeCatalog
