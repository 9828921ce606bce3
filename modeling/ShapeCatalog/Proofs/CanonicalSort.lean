import ShapeCatalog.Proofs.NameOrder

/-!
Sorting by name, characterized.  A list in the order of names is determined by what it holds under
each name, in order; so there is one way to sort a list without changing the order of items that
share a name, and the sorted list depends on nothing else.
-/

namespace ShapeCatalog.Collation

variable {α : Type} {name : α → String}

instance (items : List α) : Decidable (Ascending name items) :=
  inferInstanceAs (Decidable (items.Pairwise _))

/-- Two lists hold the same items of every name, in the same order among themselves. -/
def SameByName (name : α → String) (items others : List α) : Prop :=
  ∀ text, others.filter (fun item => name item = text)
    = items.filter (fun item => name item = text)

theorem SameByName.symm {items others : List α} (h : SameByName name items others) :
    SameByName name others items :=
  fun text => (h text).symm

theorem SameByName.append {items items' others others' : List α}
    (h : SameByName name items others) (h' : SameByName name items' others') :
    SameByName name (items ++ items') (others ++ others') := by
  intro text
  rw [List.filter_append, List.filter_append, h text, h' text]

theorem SameByName.mem {items others : List α} (h : SameByName name items others) {item : α}
    (hitem : item ∈ items) : item ∈ others := by
  have hfiltered : item ∈ items.filter (fun other => name other = name item) :=
    List.mem_filter.mpr ⟨hitem, decide_eq_true rfl⟩
  rw [← h (name item)] at hfiltered
  exact (List.mem_filter.mp hfiltered).1

/-- Once an item of both lists is taken off their front, they still hold the same. -/
theorem SameByName.tail {item : α} {items others : List α}
    (h : SameByName name (item :: items) (item :: others)) : SameByName name items others := by
  intro text
  have hcons := h text
  by_cases hname : name item = text
  · simpa [List.filter_cons, hname] using hcons
  · simpa [List.filter_cons, hname] using hcons

/-- Two names none of which comes after the other are one. -/
theorem eq_of_not_gt {a b : String} (hab : compareNames a b ≠ .gt) (hba : compareNames b a ≠ .gt) :
    a = b := by
  rw [Ne, ← Ordering.isLE_iff_ne_gt] at hab hba
  exact Std.LawfulEqCmp.eq_of_compare (Std.OrientedCmp.isLE_antisymm hab hba)

/-- The first name of an ascending list comes after none of its names. -/
theorem Ascending.head_not_gt {first item : α} {rest : List α}
    (h : Ascending name (first :: rest)) (hitem : item ∈ first :: rest) :
    compareNames (name first) (name item) ≠ .gt := by
  rcases List.mem_cons.mp hitem with rfl | hitem
  · exact le_iff.mp (le_refl (name item))
  · exact (List.pairwise_cons.mp h).1 item hitem

/-- An ascending list is determined by what it holds of each name. -/
theorem eq_of_sameByName {items others : List α} (hitems : Ascending name items)
    (hothers : Ascending name others) (h : SameByName name items others) : items = others := by
  induction items generalizing others with
  | nil => exact (List.eq_nil_iff_forall_not_mem.mpr fun _ hmem => nomatch h.symm.mem hmem).symm
  | cons first rest ih =>
      cases others with
      | nil => exact nomatch h.mem List.mem_cons_self
      | cons first' rest' =>
          have hname : name first = name first' :=
            eq_of_not_gt (hitems.head_not_gt (h.symm.mem List.mem_cons_self))
              (hothers.head_not_gt (h.mem List.mem_cons_self))
          have hfirst : first' = first := by
            have hfiltered := h (name first)
            simp only [List.filter_cons, hname, decide_true, if_true] at hfiltered
            exact (List.cons.inj hfiltered).1
          subst hfirst
          rw [ih (List.pairwise_cons.mp hitems).2 (List.pairwise_cons.mp hothers).2 h.tail]

theorem tiesWith_eq (text : String) :
    tiesWith name text = fun item => decide (name item = text) := by
  funext item
  have htie : compareNames (name item) text = .eq ↔ name item = text :=
    Std.LawfulEqCmp.compare_eq_iff_eq
  rw [tiesWith, beq_eq_decide]
  exact decide_eq_decide.mpr htie

/-- Sorting keeps the items of each name in their order. -/
theorem sameByName_sortByName (items : List α) :
    SameByName name items (sortByName name items) := by
  intro text
  have hkept : (sortByName name items).filter (tiesWith name text) = _ :=
    filter_sortByName items text
  rwa [tiesWith_eq] at hkept

/-- Lists that hold the same of each name are sorted to the same list. -/
theorem sortByName_congr {items others : List α} (h : SameByName name items others) :
    sortByName name others = sortByName name items := by
  refine eq_of_sameByName (ascending_sortByName others) (ascending_sortByName items) ?_
  intro text
  rw [sameByName_sortByName items text, sameByName_sortByName others text, h text]

/-- The sorted list is the only rearrangement of a list in which names never go down and the
items of each name keep their order.  So sorting once more changes nothing, the parts of a
list may be sorted before the whole, and where no two items share a name the order of the list
does not matter. -/
theorem sortByName_canonical (name : α → String) (items : List α) :
    (∀ sorted, sorted.Perm items ∧ Ascending name sorted ∧ SameByName name items sorted ↔
      sorted = sortByName name items) ∧
    sortByName name (sortByName name items) = sortByName name items ∧
    (∀ others, sortByName name (items ++ others)
      = sortByName name (sortByName name items ++ sortByName name others)) ∧
    ((items.map name).Nodup → ∀ others : List α, others.Perm items →
      sortByName name others = sortByName name items) := by
  refine ⟨fun sorted => ⟨?_, ?_⟩, ?_, fun others => ?_, fun hnames others hperm => ?_⟩
  · rintro ⟨-, hascending, hsame⟩
    refine eq_of_sameByName hascending (ascending_sortByName items) ?_
    intro text
    rw [sameByName_sortByName items text, hsame text]
  · rintro rfl
    exact ⟨perm_sortByName items, ascending_sortByName items, sameByName_sortByName items⟩
  · exact sortByName_congr (sameByName_sortByName items)
  · have hsame : SameByName name (items ++ others)
        (sortByName name items ++ sortByName name others) :=
      (sameByName_sortByName items).append (sameByName_sortByName others)
    exact (sortByName_congr hsame).symm
  · exact sortByName_eq_of_perm hperm hnames

/-- A capital comes after the small letter, whose items stay in their order; three names in another
order are sorted to the same list. -/
theorem sortByName_get_Get_get :
    sortByName Prod.fst [("get", 1), ("Get", 2), ("get", 3)]
      = [("get", 1), ("get", 3), ("Get", 2)] ∧
    sortByName id ["put", "Get", "get"] = sortByName id ["get", "Get", "put"] := by
  have hcanonical := sortByName_canonical Prod.fst [("get", 1), ("Get", 2), ("get", 3)]
  have hdistinct := sortByName_canonical id ["get", "Get", "put"]
  refine ⟨((hcanonical.1 _).mp ⟨by decide, by decide, ?_⟩).symm, ?_⟩
  · intro text
    by_cases hget : "get" = text
    · subst hget
      rfl
    · simp [List.filter_cons, hget]
  · exact hdistinct.2.2.2 (by decide) ["put", "Get", "get"] (by decide)

end ShapeCatalog.Collation
