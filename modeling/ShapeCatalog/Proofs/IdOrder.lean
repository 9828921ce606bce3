import ShapeCatalog.Proofs.FirstMatch

/-!
The order of ids.  What two names have in common in front does not count when they are compared,
and a name comes before everything that goes on from it.  The ids of the children of a node go on
from one and the same start by their names, so that children in the order of names are in the
order of their ids.
-/

namespace ShapeCatalog

namespace Collation

open Std

/-- A start that two lists have in common does not count. -/
theorem compareLists_append_left {α : Type} {cmp : α → α → Ordering} [ReflCmp cmp]
    (start as bs : List α) :
    compareLists cmp (start ++ as) (start ++ bs) = compareLists cmp as bs := by
  induction start with
  | nil => rfl
  | cons first rest ih =>
      have hfirst : cmp first first = .eq := ReflCmp.compare_self
      rw [List.cons_append, List.cons_append, compareLists, hfirst, Ordering.eq_then, ih]

theorem compareBy_append_left {α : Type} (weight : Char → α) {cmp : α → α → Ordering}
    [ReflCmp cmp] (start as bs : List Char) :
    compareBy weight cmp (start ++ as) (start ++ bs) = compareBy weight cmp as bs := by
  rw [compareBy, List.map_append, List.map_append, compareLists_append_left, compareBy]

theorem compareNames_append_left (start a b : String) :
    compareNames (start ++ a) (start ++ b) = compareNames a b := by
  simp only [compareNames, String.toList_append, compareBy_append_left]

theorem compareNames_empty_left {a : String} (h : a ≠ "") : compareNames "" a = .lt := by
  obtain ⟨first, rest, ha⟩ := List.exists_cons_of_ne_nil (mt String.toList_eq_nil_iff.mp h)
  rw [compareNames, ha]
  rfl

theorem compareNames_self_append (start : String) {a : String} (h : a ≠ "") :
    compareNames start (start ++ a) = .lt := by
  have hcancel := compareNames_append_left start "" a
  rwa [String.append_empty, compareNames_empty_left h] at hcancel

/-- Items whose ids go on from one start by their names are in the order of ids if they are in the
order of names. -/
theorem Ascending.of_eq_append {α : Type} {name id : α → String} {items : List α} (start : String)
    (h : Ascending name items) (hid : ∀ item ∈ items, id item = start ++ name item) :
    Ascending id items := by
  refine List.Pairwise.imp_of_mem ?_ h
  intro a b ha hb hle
  rwa [hid a ha, hid b hb, compareNames_append_left]

end Collation

open Collation

/-- The children of a node are in the order of their ids. -/
theorem Node.Fits.ids_ascending {shortName : String} {node : Node} (h : node.Fits shortName) :
    Ascending Operation.operationId node.operations ∧ Ascending Resource.nodeId node.resources :=
  ⟨h.operations_ascending.of_eq_append (shortName ++ ".") fun operation hmem =>
      (h.operations operation hmem).operationId,
    h.resources_ascending.of_eq_append (node.id ++ ".") h.resourceIds⟩

/-- What two names have in common in front does not count, and a name comes before what goes on from
it.  So at every node of a catalog that is made, the operations and the resources right below it are
in the order of their ids, as they are in the order of their names. -/
theorem common_start_cancels :
    (∀ start a b : String, compareNames (start ++ a) (start ++ b) = compareNames a b) ∧
    (∀ start a : String, a ≠ "" → compareNames start (start ++ a) = .lt) ∧
    ∀ models catalog, Catalog.ofModels models = .ok catalog → ∀ node ∈ catalog.nodes,
      Ascending Operation.operationId node.operations ∧
        Ascending Resource.nodeId node.resources := by
  refine ⟨compareNames_append_left, fun start a h => compareNames_self_append start h, ?_⟩
  intro models catalog hmade node hnode
  obtain ⟨service, hservice, hnode⟩ := List.mem_flatMap.mp hnode
  exact ((Catalog.service_fits_of_ofModels hmade service hservice).2 node hnode).ids_ascending

/-- An id comes before the ids below it, and in the sample catalog the ids of children
never go down. -/
theorem Library.ids_ascending_catalog :
    compareNames "lib.Shelf" ("lib.Shelf" ++ ".Book") = .lt ∧
    Catalog.ofModels [model] = .ok catalog ∧
    ∀ node ∈ catalog.nodes, Ascending Operation.operationId node.operations ∧
      Ascending Resource.nodeId node.resources :=
  ⟨common_start_cancels.2.1 "lib.Shelf" ".Book" (by decide), ofModels_model,
    common_start_cancels.2.2 [model] catalog ofModels_model⟩

end ShapeCatalog
