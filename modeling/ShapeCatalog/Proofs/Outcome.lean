import Mathlib.Data.List.Forall2
import Mathlib.Data.List.ReduceOption

/-!
Computations that may fail, taken apart: what each part gave when the whole succeeded, and which
fault came first when it did not.
-/

namespace ShapeCatalog

variable {ε α β : Type}

theorem ok_bind (value : α) (next : α → Except ε β) : (.ok value >>= next) = next value :=
  rfl

theorem error_bind (fault : ε) (next : α → Except ε β) : (.error fault >>= next) = .error fault :=
  rfl

theorem bind_eq_ok {outcome : Except ε α} {next : α → Except ε β} {result : β} :
    outcome >>= next = .ok result ↔ ∃ value, outcome = .ok value ∧ next value = .ok result := by
  cases outcome with
  | ok value => exact ⟨fun h => ⟨value, rfl, h⟩, fun ⟨_, hvalue, h⟩ => Except.ok.inj hvalue ▸ h⟩
  | error fault => exact ⟨nofun, fun ⟨_, hvalue, _⟩ => nomatch hvalue⟩

theorem map_eq_ok {outcome : Except ε α} {f : α → β} {result : β} :
    outcome.map f = .ok result ↔ ∃ value, outcome = .ok value ∧ f value = result := by
  cases outcome <;> simp [Except.map]

theorem map_bind_pure {γ : Type} (outcome : Except ε α) (f : α → β) (g : β → γ) :
    (outcome >>= fun value => pure (f value)).map g
      = outcome >>= fun value => pure (g (f value)) := by
  cases outcome <;> rfl

theorem pure_eq_ok {value result : α} :
    (pure value : Except ε α) = .ok result ↔ value = result :=
  ⟨Except.ok.inj, congrArg Except.ok⟩

/-- All items of a list succeed one by one, or the list does not. -/
theorem mapM_eq_ok {f : α → Except ε β} {items : List α} {results : List β} :
    items.mapM f = .ok results ↔ List.Forall₂ (fun item result => f item = .ok result)
      items results := by
  induction items generalizing results with
  | nil =>
      rw [List.mapM_nil, pure_eq_ok, List.forall₂_nil_left_iff]
      exact eq_comm
  | cons first rest ih =>
      rw [List.mapM_cons, bind_eq_ok, List.forall₂_cons_left_iff]
      constructor
      · rintro ⟨result, hresult, hrest⟩
        obtain ⟨others, hothers, heq⟩ := bind_eq_ok.mp hrest
        exact ⟨result, others, hresult, ih.mp hothers, (pure_eq_ok.mp heq).symm⟩
      · rintro ⟨result, others, hresult, hothers, rfl⟩
        exact ⟨result, hresult, bind_eq_ok.mpr ⟨others, ih.mpr hothers, rfl⟩⟩

theorem exists_left_of_forall₂ {relation : α → β → Prop} {lefts : List α} {rights : List β}
    (h : List.Forall₂ relation lefts rights) {right : β} (hright : right ∈ rights) :
    ∃ left ∈ lefts, relation left right := by
  induction h with
  | nil => cases hright
  | @cons left other lefts rights hrelation _ ih =>
      rcases List.mem_cons.mp hright with rfl | hright
      · exact ⟨left, List.mem_cons_self, hrelation⟩
      · obtain ⟨found, hfound, hrelation⟩ := ih hright
        exact ⟨found, List.mem_cons_of_mem left hfound, hrelation⟩

theorem forall₂_mem_left {relation : α → β → Prop} {lefts : List α} {rights : List β}
    (h : List.Forall₂ relation lefts rights) :
    List.Forall₂ (fun left right => left ∈ lefts ∧ relation left right) lefts rights :=
  (List.forall₂_and_left _ _).mpr ⟨fun _ hmem => hmem, h⟩

theorem forall₂_flatMap {γ : Type} {relation : α → β → Prop} {f : γ → List α} {items : List γ}
    {found : List (List β)} (h : List.Forall₂ (fun item results =>
      List.Forall₂ relation (f item) results) items found) :
    List.Forall₂ relation (items.flatMap f) found.flatten := by
  induction h with
  | nil => exact .nil
  | cons hfirst _ ih => exact List.rel_append hfirst ih

theorem forall₂_flatMap_iff {γ : Type} {relation : α → β → Prop} {f : γ → List α} {items : List γ}
    {results : List β} : List.Forall₂ relation (items.flatMap f) results ↔ ∃ found,
      List.Forall₂ (fun item results => List.Forall₂ relation (f item) results) items found ∧
        results = found.flatten := by
  constructor
  · intro h
    induction items generalizing results with
    | nil =>
        cases h
        exact ⟨[], .nil, rfl⟩
    | cons first rest ih =>
        rw [List.flatMap_cons] at h
        have hfirst := List.forall₂_take (f first).length h
        have hrest := List.forall₂_drop (f first).length h
        rw [List.take_left] at hfirst
        rw [List.drop_left] at hrest
        obtain ⟨found, hfound, heq⟩ := ih hrest
        refine ⟨_ :: found, .cons hfirst hfound, ?_⟩
        rw [List.flatten_cons, ← heq, List.take_append_drop]
  · rintro ⟨found, hfound, rfl⟩
    exact forall₂_flatMap hfound

/-- What is kept of a list is what its items give, where they give something. -/
theorem filterMapM_eq_ok {f : α → Except ε (Option β)} {items : List α} {results : List β} :
    items.filterMapM f = .ok results ↔ ∃ found,
      List.Forall₂ (fun item kept? => f item = .ok kept?) items found ∧
        results = found.reduceOption := by
  induction items generalizing results with
  | nil =>
      rw [List.filterMapM_nil, pure_eq_ok]
      constructor
      · rintro rfl
        exact ⟨[], .nil, rfl⟩
      · rintro ⟨found, hfound, rfl⟩
        cases hfound
        rfl
  | cons first rest ih =>
      rw [List.filterMapM_cons, bind_eq_ok]
      constructor
      · rintro ⟨kept?, hkept, hrest⟩
        cases kept? with
        | none =>
            obtain ⟨found, hfound, rfl⟩ := ih.mp hrest
            exact ⟨none :: found, .cons hkept hfound, rfl⟩
        | some kept =>
            obtain ⟨others, hothers, heq⟩ := bind_eq_ok.mp hrest
            obtain ⟨found, hfound, rfl⟩ := ih.mp hothers
            exact ⟨some kept :: found, .cons hkept hfound, (pure_eq_ok.mp heq).symm⟩
      · rintro ⟨_, hfound, rfl⟩
        cases hfound with
        | @cons _ kept? _ found hkept hrest =>
            refine ⟨kept?, hkept, ?_⟩
            have hothers := ih.mpr ⟨found, hrest, rfl⟩
            cases kept? with
            | none => exact hothers
            | some kept => exact bind_eq_ok.mpr ⟨_, hothers, rfl⟩

/-- Whatever is kept comes from an item. -/
theorem exists_item_of_filterMapM {f : α → Except ε (Option β)} {items : List α} {results : List β}
    (h : items.filterMapM f = .ok results) {result : β} (hresult : result ∈ results) :
    ∃ item ∈ items, f item = .ok (some result) := by
  obtain ⟨found, hfound, rfl⟩ := filterMapM_eq_ok.mp h
  exact exists_left_of_forall₂ hfound (List.reduceOption_mem_iff.mp hresult)

/-- Where something is kept of every item, keeping is computing one by one. -/
theorem filterMapM_map_some (f : α → Except ε β) (items : List α) :
    items.filterMapM (fun item => (f item).map some) = items.mapM f := by
  induction items with
  | nil => rfl
  | cons first rest ih =>
      rw [List.filterMapM_cons, List.mapM_cons, ih]
      cases f first <;> rfl

/-- Every fault in which a computation can end has a property. -/
def FailsOnly (outcome : Except ε α) (post : ε → Prop) : Prop :=
  ∀ fault, outcome = .error fault → post fault

section

variable {post : ε → Prop}

theorem failsOnly_ok (value : α) : FailsOnly (.ok value) post :=
  nofun

theorem FailsOnly.imp {outcome : Except ε α} {post' : ε → Prop} (h : FailsOnly outcome post)
    (hpost : ∀ fault, post fault → post' fault) : FailsOnly outcome post' :=
  fun fault hfault => hpost fault (h fault hfault)

theorem failsOnly_bind {outcome : Except ε α} {next : α → Except ε β} (h : FailsOnly outcome post)
    (hnext : ∀ value, outcome = .ok value → FailsOnly (next value) post) :
    FailsOnly (outcome >>= next) post := by
  cases outcome with
  | ok value => exact hnext value rfl
  | error fault =>
      rw [error_bind]
      rintro _ ⟨⟩
      exact h fault rfl

theorem failsOnly_filterMapM {f : α → Except ε (Option β)} {items : List α}
    (h : ∀ item ∈ items, FailsOnly (f item) post) : FailsOnly (items.filterMapM f) post := by
  induction items with
  | nil => exact failsOnly_ok []
  | cons first rest ih =>
      rw [List.forall_mem_cons] at h
      rw [List.filterMapM_cons]
      apply failsOnly_bind h.1
      intro kept? _
      cases kept? with
      | none => exact ih h.2
      | some kept => exact failsOnly_bind (ih h.2) fun others _ => failsOnly_ok (kept :: others)

end

/-- Whether a computation has a value is settled by a condition, and if it has one, that has a
property. -/
structure SucceedsIff (outcome : Except ε α) (fits : Prop) (post : α → Prop) : Prop where
  exists_ok : fits → ∃ value, outcome = .ok value ∧ post value
  fails : ¬fits → ∃ fault, outcome = .error fault

namespace SucceedsIff

variable {outcome : Except ε α} {fits : Prop} {post : α → Prop}

theorem congr {fits' : Prop} (h : SucceedsIff outcome fits post) (hfits : fits ↔ fits') :
    SucceedsIff outcome fits' post := by
  rwa [propext hfits] at h

theorem imp {post' : α → Prop} (h : SucceedsIff outcome fits post)
    (hpost : ∀ value, post value → post' value) : SucceedsIff outcome fits post' where
  exists_ok hfits := by
    obtain ⟨value, hvalue, hholds⟩ := h.exists_ok hfits
    exact ⟨value, hvalue, hpost value hholds⟩
  fails := h.fails

theorem ok {value : α} (hfits : fits) (hpost : post value) :
    SucceedsIff (.ok value : Except ε α) fits post :=
  ⟨fun _ => ⟨value, rfl, hpost⟩, fun hnot => absurd hfits hnot⟩

theorem error (fault : ε) (hfits : ¬fits) : SucceedsIff (.error fault) fits post :=
  ⟨fun h => absurd h hfits, fun _ => ⟨fault, rfl⟩⟩

/-- Two steps succeed together if both do. -/
theorem bind {next : α → Except ε β} {fits' : Prop} {post' : β → Prop}
    (h : SucceedsIff outcome fits post)
    (hnext : ∀ value, post value → SucceedsIff (next value) fits' post') :
    SucceedsIff (outcome.bind next) (fits ∧ fits') post' := by
  by_cases hfits : fits
  · obtain ⟨value, rfl, hpost⟩ := h.exists_ok hfits
    exact (hnext value hpost).congr (and_iff_right hfits).symm
  · obtain ⟨fault, hfault⟩ := h.fails hfits
    rw [hfault]
    exact error fault fun hboth => hfits hboth.1

theorem map {post' : β → Prop} (h : SucceedsIff outcome fits post) {f : α → β}
    (hpost : ∀ value, post value → post' (f value)) :
    SucceedsIff (outcome.map f) fits post' where
  exists_ok hfits := by
    obtain ⟨value, rfl, hvalue⟩ := h.exists_ok hfits
    exact ⟨f value, rfl, hpost value hvalue⟩
  fails hnot := by
    obtain ⟨fault, rfl⟩ := h.fails hnot
    exact ⟨fault, rfl⟩

/-- The items of a list are all had back from what they are turned into, if each of them is. -/
theorem mapM_map {γ : Type} {f : γ → Except ε β} {spell : α → γ} {fits : α → Prop}
    {relation : α → β → Prop} {items : List α}
    (h : ∀ item ∈ items, SucceedsIff (f (spell item)) (fits item) (relation item)) :
    SucceedsIff ((items.map spell).mapM f) (∀ item ∈ items, fits item)
      (List.Forall₂ relation items) := by
  induction items with
  | nil => exact ok (List.forall_mem_nil fits) .nil
  | cons first rest ih =>
      rw [List.forall_mem_cons] at h
      rw [List.map_cons, List.mapM_cons]
      refine (h.1.bind fun found hfound => ?_).congr List.forall_mem_cons.symm
      exact (ih h.2).map fun others hothers => .cons hfound hothers

end SucceedsIff

theorem findSome?_congr {α β : Type} {f g : α → Option β} {items : List α}
    (h : ∀ item ∈ items, f item = g item) : items.findSome? f = items.findSome? g := by
  induction items with
  | nil => rfl
  | cons first rest ih =>
      have hrest := ih fun item hitem => h item (List.mem_cons_of_mem first hitem)
      rw [List.findSome?_cons, List.findSome?_cons, h first List.mem_cons_self, hrest]

end ShapeCatalog
