import ShapeCatalog.Proofs.PathExample

/-!
References between shapes that describe values.  The example of a shape holds examples of its
contents; the key of a map is exemplified too, but only its text is kept.  An example fails for a
reference that is met from its shape and for nothing else, and where it succeeds, every reference
that is met through contents leads to a value, since what is cut off on a path is being
exemplified further up.
-/

namespace ShapeCatalog

open Relation
open Json (Value)

/-- The ids of the shapes whose examples stand in an example of a shape.  Of a union only the first
member is followed, and of a map only the value. -/
def Shape.contents : Shape → List String
  | .struct shape => shape.members.entries.map fun entry => entry.2.target
  | .union shape => shape.members.first?.toList.map fun entry => entry.2.target
  | .list shape | .set shape => [shape.member.target]
  | .map shape => [shape.value.target]
  | .service _ | .resource _ | .operation _ | .enum _ | .intEnum _ | .simple _ _ => []

/-- Where a walk goes that does not stay where it starts, it leaves its start for good. -/
theorem exists_walk_not_back {α : Type} {step : α → α → Prop} {start last : α}
    (h : ReflTransGen step start last) : start = last ∨ ∃ next, step start next ∧ next ≠ start ∧
      ReflTransGen (fun here there => step here there ∧ there ≠ start) next last := by
  induction h with
  | refl => exact Or.inl rfl
  | @tail here there _ hstep ih =>
      by_cases hback : there = start
      · exact Or.inl hback.symm
      · rcases ih with rfl | ⟨next, hfirst, hnext, hwalk⟩
        · exact Or.inr ⟨there, hstep, hback, .refl⟩
        · exact Or.inr ⟨next, hfirst, hnext, hwalk.tail ⟨hstep, hback⟩⟩

namespace Document

/-- A shape leads to its contents. -/
def ContentStep (document : Document) (id next : String) : Prop :=
  ∃ shape, document.lookup? id = some shape ∧ next ∈ shape.contents

/-- A shape leads to its contents, and a map to its key as well. -/
def ReferenceStep (document : Document) (id next : String) : Prop :=
  document.ContentStep id next ∨ document.KeyStep id next

/-- The ids that are met from an id when every reference is followed. -/
def Meets (document : Document) (id next : String) : Prop :=
  TransGen document.ReferenceStep id next

/-- The ids that are met from an id when contents are followed, and keys of maps are met but not
followed any further. -/
def MeetsPlainly (document : Document) (id next : String) : Prop :=
  ∃ holder, ReflTransGen document.ContentStep id holder ∧ document.ReferenceStep holder next

/-- An id stands for a shape that describes values. -/
def DescribesValue (document : Document) (id : String) : Prop :=
  ∃ shape, document.lookup? id = some shape ∧ shape.kind.isValue = true

/-- An error of looking up the id itself, or an id that is met from it. -/
def FaultFrom (document : Document) (id : String) (error : CatalogError) : Prop :=
  ∃ culprit, ReflTransGen document.ReferenceStep id culprit ∧
    document.resolveValue culprit = .error error

variable {document : Document} {path : Finset String} {id next name : String}
  {hkeys : document.KeysAcyclic}

theorem resolveValue_eq_ok {shape : Shape} : document.resolveValue id = .ok shape ↔
    document.lookup? id = some shape ∧ shape.kind.isValue = true := by
  refine ⟨lookup_of_resolveValue, ?_⟩
  rintro ⟨hlookup, hvalue⟩
  rw [resolveValue, resolve, hlookup]
  exact if_pos hvalue

theorem describesValue_iff : document.DescribesValue id ↔
    ∃ shape, document.resolveValue id = .ok shape :=
  exists_congr fun _ => resolveValue_eq_ok.symm

/-- An id fails to describe a value because nothing stands at it, or something that is no value. -/
theorem resolveValue_eq_error {error : CatalogError} (h : document.resolveValue id = .error error) :
    (document.lookup? id = none ∧ error = .shapeNotFound id) ∨
      ∃ shape, document.lookup? id = some shape ∧ shape.kind.isValue = false ∧
        error = .notAValue id shape.kind := by
  rw [resolveValue, resolve] at h
  cases hlookup : document.lookup? id with
  | none =>
      rw [hlookup] at h
      exact Or.inl ⟨rfl, (Except.error.inj h).symm⟩
  | some shape =>
      rw [hlookup] at h
      change Shape.requireValue id shape = .error error at h
      rw [Shape.requireValue] at h
      split at h
      · cases h
      · next hvalue =>
          exact Or.inr ⟨shape, rfl, Bool.eq_false_iff.mpr hvalue, (Except.error.inj h).symm⟩

theorem contentStep_of_resolveValue {shape : Shape} (h : document.resolveValue id = .ok shape)
    (hnext : next ∈ shape.contents) : document.ContentStep id next :=
  ⟨shape, (lookup_of_resolveValue h).1, hnext⟩

theorem contentStep_iff {shape : Shape} (h : document.resolveValue id = .ok shape) :
    document.ContentStep id next ↔ next ∈ shape.contents := by
  refine ⟨?_, contentStep_of_resolveValue h⟩
  rintro ⟨found, hfound, hnext⟩
  obtain rfl := Option.some.inj ((lookup_of_resolveValue h).1.symm.trans hfound)
  exact hnext

theorem referenceStep_of_member {shape : MembersShape} {entry : String × ShapeRef}
    (hshape : document.resolveValue id = .ok (.struct shape))
    (hmem : entry ∈ shape.members.entries) : document.ReferenceStep id entry.2.target :=
  .inl (contentStep_of_resolveValue hshape (List.mem_map_of_mem hmem))

theorem referenceStep_of_variant {shape : MembersShape} {entry : String × ShapeRef}
    (hshape : document.resolveValue id = .ok (.union shape))
    (hfirst : shape.members.first? = some entry) : document.ReferenceStep id entry.2.target :=
  .inl (contentStep_of_resolveValue hshape (by simp [Shape.contents, hfirst]))

theorem referenceStep_of_element {shape : ListShape}
    (hshape : document.resolveValue id = .ok (.list shape) ∨
      document.resolveValue id = .ok (.set shape)) :
    document.ReferenceStep id shape.member.target := by
  rcases hshape with hshape | hshape <;>
    exact .inl (contentStep_of_resolveValue hshape List.mem_cons_self)

theorem referenceStep_of_key {shape : MapShape}
    (hshape : document.resolveValue id = .ok (.map shape)) :
    document.ReferenceStep id shape.key.target :=
  .inr (keyStep_of_resolveValue hshape)

theorem referenceStep_of_value {shape : MapShape}
    (hshape : document.resolveValue id = .ok (.map shape)) :
    document.ReferenceStep id shape.value.target :=
  .inl (contentStep_of_resolveValue hshape List.mem_cons_self)

/-- Only shapes of the document itself lead anywhere. -/
theorem mem_ownIds_of_referenceStep (h : document.ReferenceStep id next) :
    id ∈ document.ownIds := by
  rcases h with ⟨shape, hlookup, hnext⟩ | hkey
  · apply mem_ownIds_of_lookup hlookup
    rintro kind traits rfl
    cases hnext
  · exact mem_ownIds_of_keyStep hkey

/-- A reference stands in an entry of the document. -/
theorem exists_entry_of_referenceStep (h : document.ReferenceStep id next) :
    ∃ shape, (id, shape) ∈ document.shapes.entries ∧ next ∈ shape.contents ++ shape.keys := by
  have hlookup : ∃ shape, document.lookup? id = some shape ∧
      next ∈ shape.contents ++ shape.keys := by
    rcases h with ⟨shape, hlookup, hnext⟩ | ⟨shape, hlookup, rfl⟩
    · exact ⟨shape, hlookup, List.mem_append_left _ hnext⟩
    · exact ⟨.map shape, hlookup, List.mem_append_right _ List.mem_cons_self⟩
  obtain ⟨shape, hlookup, hnext⟩ := hlookup
  rcases lookup_cases hlookup with ⟨kind, -, rfl⟩ | ⟨-, hmem⟩
  · cases hnext
  · exact ⟨shape, hmem, hnext⟩

/-- Ids that lead to one another only hold all that is met from them. -/
theorem mem_of_walk {ids : List String}
    (hclosed : ∀ entry ∈ document.shapes.entries, entry.1 ∈ ids →
      ∀ next ∈ entry.2.contents ++ entry.2.keys, next ∈ ids)
    (hid : id ∈ ids) (h : ReflTransGen document.ReferenceStep id next) : next ∈ ids := by
  induction h with
  | refl => exact hid
  | tail _ hstep ih =>
      obtain ⟨shape, hmem, hnext⟩ := exists_entry_of_referenceStep hstep
      exact hclosed _ hmem ih _ hnext

/-- What is met from an id is met from every id that leads to it. -/
theorem failsOnly_of_step {α : Type} {outcome : Except CatalogError α}
    (hstep : document.ReferenceStep id next) (h : FailsOnly outcome (document.FaultFrom next)) :
    FailsOnly outcome (document.FaultFrom id) := by
  refine h.imp ?_
  rintro error ⟨culprit, hwalk, herror⟩
  exact ⟨culprit, .head hstep hwalk, herror⟩

theorem failsOnly_resolveValue_of_step (hstep : document.ReferenceStep id next) :
    FailsOnly (document.resolveValue next) (document.FaultFrom id) :=
  failsOnly_of_step hstep fun _ herror => ⟨next, .refl, herror⟩

/-- Every error of an example is one of looking up its shape, or an id that is met from there. -/
theorem faultFrom_of_exampleBelow (path : Finset String) (id name : String) :
    FailsOnly (document.exampleBelow hkeys path id name) (document.FaultFrom id) := by
  fun_induction document.exampleBelow hkeys path id name
  case case1 path id name error herror =>
    rintro _ ⟨⟩
    exact ⟨id, .refl, herror⟩
  case case2 path id name shape hshape ih =>
    refine failsOnly_bind (failsOnly_filterMapM ?_) fun entries _ => failsOnly_ok _
    rintro ⟨member, ref⟩ hmem
    have hstep := referenceStep_of_member hshape hmem
    apply failsOnly_bind (failsOnly_resolveValue_of_step hstep)
    intro _ _
    split
    · exact failsOnly_ok none
    · next hnew =>
        apply failsOnly_bind (failsOnly_of_step hstep (ih member ref hnew))
        exact fun value _ => failsOnly_ok _
  case case3 | case8 | case9 | case10 => exact failsOnly_ok _
  case case4 path id name shape hshape member ref hfirst ih =>
    have hstep := referenceStep_of_variant hshape hfirst
    apply failsOnly_bind (failsOnly_resolveValue_of_step hstep)
    intro _ _
    split
    · exact failsOnly_ok _
    · next hnew => exact failsOnly_of_step hstep (ih hnew)
  case case5 path id name shape hshape ih | case6 path id name shape hshape ih =>
    have hstep : document.ReferenceStep id shape.member.target :=
      referenceStep_of_element (by simp [hshape])
    apply failsOnly_bind (failsOnly_resolveValue_of_step hstep)
    intro _ _
    split
    · exact failsOnly_ok _
    · next hnew =>
        exact failsOnly_bind (failsOnly_of_step hstep (ih hnew)) fun value _ => failsOnly_ok _
  case case7 path id name shape hshape ihkey ihvalue =>
    have hkey := referenceStep_of_key hshape
    have hvalue := referenceStep_of_value hshape
    apply failsOnly_bind (failsOnly_resolveValue_of_step hkey)
    intro _ _
    apply failsOnly_bind (failsOnly_resolveValue_of_step hvalue)
    intro _ _
    split
    · exact failsOnly_ok _
    · next hnew =>
        apply failsOnly_bind (failsOnly_of_step hkey ihkey)
        intro key _
        apply failsOnly_bind (failsOnly_of_step hvalue (ihvalue hnew))
        exact fun value _ => failsOnly_ok _
  case case11 inner hinner | case12 inner hinner | case13 inner hinner =>
    exact absurd (lookup_of_resolveValue hinner).2 Bool.false_ne_true

end Document

end ShapeCatalog
