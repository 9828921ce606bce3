import Mathlib.Data.List.Nodup
import ShapeCatalog.Collation

/-!
The order of names is linear, so that sorting by name is well defined: the sorted list is an ordered
rearrangement in which items of one name keep their order.
-/

namespace ShapeCatalog.Collation

open Std

instance transCmp_comparePairs : TransCmp comparePairs :=
  inferInstanceAs (TransCmp (compareLex (compareOn Prod.fst) (compareOn Prod.snd)))

theorem compareLists_eq_compareLex {α : Type} (cmp : α → α → Ordering) (as bs : List α) :
    compareLists cmp as bs = List.compareLex cmp as bs := by
  induction as generalizing bs with
  | nil => cases bs <;> rfl
  | cons a as ih =>
      cases bs with
      | nil => rfl
      | cons b bs => rw [compareLists, List.compareLex_cons_cons, ih]

instance transCmp_compareLists {α : Type} {cmp : α → α → Ordering} [TransCmp cmp] :
    TransCmp (compareLists cmp) := by
  have heq : compareLists cmp = List.compareLex cmp := by
    funext as bs
    exact compareLists_eq_compareLex cmp as bs
  rw [heq]
  infer_instance

/-- Comparing two values by what a function makes of them keeps the laws of the comparison. -/
instance transCmp_onImage {α β : Type} {cmp : β → β → Ordering} [TransCmp cmp] (f : α → β) :
    TransCmp fun a b => cmp (f a) (f b) where
  eq_swap := OrientedCmp.eq_swap
  isLE_trans := TransCmp.isLE_trans

instance transCmp_compareBy {α : Type} (weight : Char → α) {cmp : α → α → Ordering}
    [TransCmp cmp] : TransCmp fun a b : String => compareBy weight cmp a.toList b.toList :=
  transCmp_onImage fun name : String => name.toList.map weight

instance transCmp_compareNames : TransCmp compareNames :=
  inferInstanceAs (TransCmp (compareLex
    (fun a b : String => compareBy primaryWeight comparePairs a.toList b.toList)
    (compareLex (fun a b : String => compareBy caseWeight compare a.toList b.toList)
      fun a b : String => compareBy Char.toNat compare a.toList b.toList)))

theorem eq_of_compareBy_toNat {a b : List Char}
    (h : compareBy Char.toNat compare a b = .eq) : a = b := by
  rw [compareBy, compareLists_eq_compareLex] at h
  exact List.map_injective_iff.mpr (fun _ _ => Char.toNat_inj.mp) (LawfulEqCmp.eq_of_compare h)

/-- Only equal names tie: the last comparison is one of code points. -/
instance lawfulEqCmp_compareNames : LawfulEqCmp compareNames where
  eq_of_compare := by
    intro a b h
    rw [compareNames, Ordering.then_eq_eq, Ordering.then_eq_eq] at h
    exact String.toList_injective (eq_of_compareBy_toNat h.2.2)

theorem le_eq_isLE (a b : String) : le a b = (compareNames a b).isLE := by
  rw [le]
  cases compareNames a b <;> rfl

theorem le_iff {a b : String} : le a b = true ↔ compareNames a b ≠ .gt := by
  simp [le]

theorem le_trans {a b c : String} (hab : le a b = true) (hbc : le b c = true) :
    le a c = true := by
  rw [le_eq_isLE] at hab hbc ⊢
  exact TransCmp.isLE_trans hab hbc

theorem le_total (a b : String) : (le a b || le b a) = true := by
  have hswap : compareNames b a = (compareNames a b).swap := OrientedCmp.eq_swap
  rw [le_eq_isLE, le_eq_isLE, hswap]
  cases compareNames a b <;> rfl

theorem le_refl (a : String) : le a a = true := by
  simpa using le_total a a

/-- The names of a list never go down. -/
def Ascending {α : Type} (name : α → String) (items : List α) : Prop :=
  items.Pairwise fun a b => compareNames (name a) (name b) ≠ .gt

/-- Whether the name of an item ties with a text. -/
def tiesWith {α : Type} (name : α → String) (text : String) (item : α) : Bool :=
  compareNames (name item) text == .eq

/-- A list is the stable sort of another by name: it has the same items, its names never go down,
and items whose names tie stand in the same order in both. -/
structure StableSort {α : Type} (name : α → String) (items sorted : List α) : Prop where
  perm : sorted.Perm items
  ascending : Ascending name sorted
  stable : ∀ text, sorted.filter (tiesWith name text) = items.filter (tiesWith name text)

variable {α : Type} {name : α → String}

theorem le_trans_on (name : α → String) (a b c : α) (hab : le (name a) (name b) = true)
    (hbc : le (name b) (name c) = true) : le (name a) (name c) = true :=
  le_trans hab hbc

theorem le_total_on (name : α → String) (a b : α) :
    (le (name a) (name b) || le (name b) (name a)) = true :=
  le_total (name a) (name b)

theorem perm_sortByName (items : List α) : (sortByName name items).Perm items :=
  List.mergeSort_perm items _

@[simp] theorem sortByName_nil : sortByName name [] = [] :=
  List.mergeSort_nil

@[simp] theorem sortByName_singleton (item : α) : sortByName name [item] = [item] :=
  List.mergeSort_singleton item

theorem ascending_sortByName (items : List α) : Ascending name (sortByName name items) := by
  have hpairwise := List.pairwise_mergeSort (le_trans_on name) (le_total_on name) items
  exact hpairwise.imp fun h => le_iff.mp h

theorem sortByName_of_ascending {items : List α} (h : Ascending name items) :
    sortByName name items = items :=
  List.mergeSort_of_pairwise (h.imp fun hle => le_iff.mpr hle)

theorem sortByName_pair {a b : α} (h : compareNames (name a) (name b) = .gt) :
    sortByName name [a, b] = [b, a] := by
  have hle : le (name a) (name b) = false := by
    rw [le, h]
    rfl
  simp [sortByName, List.mergeSort, hle]

/-- Items that tie with a name stand in order among themselves, so that sorting keeps them as they
are. -/
theorem filter_sortByName (items : List α) (text : String) :
    (sortByName name items).filter (tiesWith name text) = items.filter (tiesWith name text) := by
  have hordered : (items.filter (tiesWith name text)).Pairwise fun a b =>
      le (name a) (name b) = true := by
    apply List.pairwise_of_forall_mem_list
    intro a ha b hb
    have ha' : compareNames (name a) text = .eq := eq_of_beq (List.mem_filter.mp ha).2
    have hb' : compareNames (name b) text = .eq := eq_of_beq (List.mem_filter.mp hb).2
    have htie : compareNames (name a) (name b) = .eq :=
      TransCmp.eq_trans ha' (OrientedCmp.eq_symm hb')
    rw [le_iff, htie]
    decide
  have hsublist : (items.filter (tiesWith name text)).Sublist (sortByName name items) :=
    List.sublist_mergeSort (le_trans_on name) (le_total_on name) hordered List.filter_sublist
  have hkept : (items.filter (tiesWith name text)).Sublist
      ((sortByName name items).filter (tiesWith name text)) := by
    have hfilter := hsublist.filter (tiesWith name text)
    simpa only [List.filter_filter, Bool.and_self] using hfilter
  have hlength : (items.filter (tiesWith name text)).length
      = ((sortByName name items).filter (tiesWith name text)).length :=
    ((perm_sortByName items).filter _).length_eq.symm
  exact (hkept.eq_of_length hlength).symm

theorem stableSort_sortByName (items : List α) :
    StableSort name items (sortByName name items) where
  perm := perm_sortByName items
  ascending := ascending_sortByName items
  stable := filter_sortByName items

/-- Where no two items share a name, sorting gives the same list in whatever order they come. -/
theorem sortByName_eq_of_perm {items items' : List α} (hperm : items'.Perm items)
    (hnames : (items.map name).Nodup) : sortByName name items' = sortByName name items := by
  have hsorted : (sortByName name items').Perm (sortByName name items) :=
    ((perm_sortByName items').trans hperm).trans (perm_sortByName items).symm
  refine hsorted.eq_of_pairwise ?_ (ascending_sortByName items') (ascending_sortByName items)
  intro a b ha hb hab hba
  rw [(perm_sortByName items').mem_iff, hperm.mem_iff] at ha
  rw [(perm_sortByName items).mem_iff] at hb
  have hswap : compareNames (name b) (name a) = (compareNames (name a) (name b)).swap :=
    OrientedCmp.eq_swap
  have htie : compareNames (name a) (name b) = .eq := by
    rw [hswap] at hba
    cases hcompare : compareNames (name a) (name b) with
    | lt => simp [hcompare] at hba
    | eq => rfl
    | gt => exact absurd hcompare hab
  exact List.inj_on_of_nodup_map hnames ha hb (LawfulEqCmp.eq_of_compare htie)

/-- Once one of two steps goes up and the other does not go down, both together go up. -/
theorem compareNames_lt_of_le {a b c : String} (hab : compareNames a b ≠ .gt)
    (hbc : compareNames b c ≠ .gt) (h : compareNames a b = .lt ∨ compareNames b c = .lt) :
    compareNames a c = .lt := by
  rw [Ne, ← Ordering.isLE_iff_ne_gt] at hab hbc
  rcases h with hlt | hlt
  · exact TransCmp.lt_of_lt_of_isLE hlt hbc
  · exact TransCmp.lt_of_isLE_of_lt hab hlt

/-- The order of names is linear.  Only equal names tie, turning two names around turns their
comparison around, and two steps none of which goes down do not go down together; they go up if one
of them does. -/
theorem compareNames_linear (a b c : String) :
    (compareNames a b = .eq ↔ a = b) ∧
    compareNames b a = (compareNames a b).swap ∧
    (compareNames a b ≠ .gt → compareNames b c ≠ .gt →
      compareNames a c ≠ .gt ∧
      (compareNames a b = .lt ∨ compareNames b c = .lt → compareNames a c = .lt)) := by
  refine ⟨LawfulEqCmp.compare_eq_iff_eq, OrientedCmp.eq_swap, ?_⟩
  intro hab hbc
  refine ⟨?_, compareNames_lt_of_le hab hbc⟩
  rw [← le_iff] at hab hbc ⊢
  exact le_trans hab hbc

/-- The three comparisons decide one after the other: a small letter comes before the capital,
although the capital has the lower code point, and what comes after it decides before either. -/
theorem compareNames_get_Get_geTs :
    compareNames "get" "Get" ≠ .gt ∧ compareNames "Get" "geTs" ≠ .gt ∧
      compareNames "get" "geTs" = .lt := by
  have hfirst : compareNames "get" "Get" = .lt := by decide
  have hsecond : compareNames "Get" "geTs" ≠ .gt := by decide
  have hboth := (compareNames_linear "get" "Get" "geTs").2.2 (by rw [hfirst]; decide) hsecond
  exact ⟨by rw [hfirst]; decide, hsecond, hboth.2 (Or.inl hfirst)⟩

end ShapeCatalog.Collation
