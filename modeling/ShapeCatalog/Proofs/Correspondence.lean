import ShapeCatalog.Proofs.Extraction

/-!
Ids that stand for one another.  Ids of one document stand for ids of another if both lead to shapes
of one kind whose references stand for one another again, and if they are told apart in the same
way.  What is looked up in two such documents is alike: shapes that match, or one error at ids that
stand for one another.
-/

namespace ShapeCatalog

variable {α β γ δ : Type} {same : String → String → Prop}

/-- Two errors of one kind at ids that stand for one another. -/
inductive CatalogError.Matches (same : String → String → Prop) : CatalogError → CatalogError → Prop
  | shapeNotFound {id id' : String} (h : same id id') :
      CatalogError.Matches same (.shapeNotFound id) (.shapeNotFound id')
  | typeMismatch {id id' : String} (expected actual : Kind) (h : same id id') :
      CatalogError.Matches same (.typeMismatch id expected actual)
        (.typeMismatch id' expected actual)
  | notAValue {id id' : String} (kind : Kind) (h : same id id') :
      CatalogError.Matches same (.notAValue id kind) (.notAValue id' kind)
  | unsupportedInput {operation operation' id id' : String} (kind : Kind)
      (hoperation : same operation operation') (h : same id id') :
      CatalogError.Matches same (.unsupportedInput operation id kind)
        (.unsupportedInput operation' id' kind)
  | noExample {id id' : String} (kind : Kind) (h : same id id') :
      CatalogError.Matches same (.noExample kind id) (.noExample kind id')
  | endlessKey {id id' : String} (h : same id id') :
      CatalogError.Matches same (.endlessKey id) (.endlessKey id')
  | endlessResource {id id' : String} (h : same id id') :
      CatalogError.Matches same (.endlessResource id) (.endlessResource id')

/-- Two outcomes with related values, or with matching errors. -/
inductive Alike (same : String → String → Prop) (relation : α → β → Prop) :
    Except CatalogError α → Except CatalogError β → Prop
  | ok {value : α} {value' : β} (h : relation value value') :
      Alike same relation (.ok value) (.ok value')
  | error {fault fault' : CatalogError} (h : fault.Matches same fault') :
      Alike same relation (.error fault) (.error fault')

theorem alike_ok_left_iff {relation : α → β → Prop} {value : α} {outcome : Except CatalogError β} :
    Alike same relation (.ok value) outcome ↔
      ∃ value', outcome = .ok value' ∧ relation value value' := by
  constructor
  · rintro ⟨h⟩
    exact ⟨_, rfl, h⟩
  · rintro ⟨value', rfl, h⟩
    exact .ok h

theorem alike_ok_right_iff {relation : α → β → Prop} {outcome : Except CatalogError α} {value : β} :
    Alike same relation outcome (.ok value) ↔
      ∃ value', outcome = .ok value' ∧ relation value' value := by
  constructor
  · rintro ⟨h⟩
    exact ⟨_, rfl, h⟩
  · rintro ⟨value', rfl, h⟩
    exact .ok h

theorem alike_bind {relation : α → β → Prop} {relation' : γ → δ → Prop}
    {outcome : Except CatalogError α} {outcome' : Except CatalogError β}
    {next : α → Except CatalogError γ} {next' : β → Except CatalogError δ}
    (h : Alike same relation outcome outcome')
    (hnext : ∀ value value', outcome = .ok value → outcome' = .ok value' → relation value value' →
      Alike same relation' (next value) (next' value')) :
    Alike same relation' (outcome >>= next) (outcome' >>= next') := by
  cases h with
  | ok hvalue => exact hnext _ _ rfl rfl hvalue
  | error hfault => exact .error hfault

theorem alike_mapM {f : α → Except CatalogError γ} {f' : β → Except CatalogError γ}
    {items : List α} {items' : List β}
    (h : List.Forall₂ (fun item item' => Alike same Eq (f item) (f' item')) items items') :
    Alike same Eq (items.mapM f) (items'.mapM f') := by
  induction h with
  | nil => exact .ok rfl
  | cons hfirst _ ih =>
      rw [List.mapM_cons, List.mapM_cons]
      apply alike_bind hfirst
      rintro value _ _ _ rfl
      apply alike_bind ih
      rintro values _ _ _ rfl
      exact .ok rfl

/-- Where ids stand for themselves only, outcomes that are alike are equal. -/
theorem eq_of_alike (hsame : ∀ id id', same id id' → id = id')
    {outcome outcome' : Except CatalogError α} (h : Alike same Eq outcome outcome') :
    outcome = outcome' := by
  cases h with
  | ok hvalue => rw [hvalue]
  | error hfault =>
      cases hfault with
      | unsupportedInput kind hoperation hid => rw [hsame _ _ hoperation, hsame _ _ hid]
      | _ => rename_i hid; rw [hsame _ _ hid]

/-- Two references to ids that stand for one another. -/
def ShapeRef.Matches (same : String → String → Prop) (ref ref' : ShapeRef) : Prop :=
  same ref.target ref'.target

/-- Two resources whose references stand for one another.  What is not followed plays no part. -/
structure ResourceShape.Matches (same : String → String → Prop) (shape shape' : ResourceShape) :
    Prop where
  resources : List.Forall₂ (ShapeRef.Matches same) shape.resources shape'.resources
  operations : List.Forall₂ (ShapeRef.Matches same) shape.operationRefs shape'.operationRefs

/-- Two operations of one description whose inputs stand for one another. -/
structure OperationShape.Matches (same : String → String → Prop) (shape shape' : OperationShape) :
    Prop where
  input : Option.Rel (ShapeRef.Matches same) shape.input shape'.input
  description : shape'.description? = shape.description?

/-- Two shapes of one kind of which the same is made, up to ids that stand for one another. -/
inductive Shape.Matches (same : String → String → Prop) : Shape → Shape → Prop
  | service (shape shape' : ServiceShape) : Shape.Matches same (.service shape) (.service shape')
  | resource {shape shape' : ResourceShape} (h : shape.Matches same shape') :
      Shape.Matches same (.resource shape) (.resource shape')
  | operation {shape shape' : OperationShape} (h : shape.Matches same shape') :
      Shape.Matches same (.operation shape) (.operation shape')
  | struct {shape shape' : MembersShape} (h : List.Forall₂ (fun entry entry' =>
      entry'.1 = entry.1 ∧ entry.2.Matches same entry'.2) shape.members.entries
        shape'.members.entries) : Shape.Matches same (.struct shape) (.struct shape')
  | list {shape shape' : ListShape} (h : shape.member.Matches same shape'.member) :
      Shape.Matches same (.list shape) (.list shape')
  | set {shape shape' : ListShape} (h : shape.member.Matches same shape'.member) :
      Shape.Matches same (.set shape) (.set shape')
  | map {shape shape' : MapShape} (hkey : shape.key.Matches same shape'.key)
      (hvalue : shape.value.Matches same shape'.value) :
      Shape.Matches same (.map shape) (.map shape')
  | union {shape shape' : MembersShape} (h : Option.Rel (fun entry entry' =>
      entry.2.Matches same entry'.2) shape.members.first? shape'.members.first?) :
      Shape.Matches same (.union shape) (.union shape')
  | enum {shape shape' : MembersShape}
      (h : Example.declaredValue? shape' = Example.declaredValue? shape) :
      Shape.Matches same (.enum shape) (.enum shape')
  | intEnum {shape shape' : MembersShape}
      (h : Example.declaredValue? shape' = Example.declaredValue? shape) :
      Shape.Matches same (.intEnum shape) (.intEnum shape')
  | simple (kind : SimpleKind) (traits traits' : Traits) :
      Shape.Matches same (.simple kind traits) (.simple kind traits')

theorem Shape.Matches.kind_eq {shape shape' : Shape} (h : shape.Matches same shape') :
    shape'.kind = shape.kind := by
  cases h <;> rfl

theorem Shape.Matches.isInput_eq {shape shape' : Shape} (h : shape.Matches same shape') :
    shape'.isInput = shape.isInput := by
  cases h with
  | simple kind traits traits' => cases kind <;> rfl
  | _ => rfl

/-- The ids that are followed from a shape.  Of a union only the first member is, and an operation
without an input takes the unit shape. -/
def Shape.uses : Shape → List String
  | .resource shape => (shape.resources ++ shape.operationRefs).map ShapeRef.target
  | .operation shape => [shape.inputId]
  | .struct shape => shape.members.entries.map fun entry => entry.2.target
  | .union shape => shape.members.first?.toList.map fun entry => entry.2.target
  | .list shape | .set shape => [shape.member.target]
  | .map shape => [shape.key.target, shape.value.target]
  | .service _ | .enum _ | .intEnum _ | .simple _ _ => []

/-- A shape matches itself if the ids that are followed from it stand for themselves. -/
theorem Shape.matches_self {shape : Shape} (h : ∀ id ∈ shape.uses, same id id) :
    shape.Matches same shape := by
  cases shape with
  | service shape => exact .service shape shape
  | resource shape =>
      rw [uses, List.map_append, List.forall_mem_append, List.forall_mem_map,
        List.forall_mem_map] at h
      exact .resource ⟨List.forall₂_same.mpr h.1, List.forall₂_same.mpr h.2⟩
  | operation shape =>
      refine .operation ⟨?_, rfl⟩
      rw [uses, List.forall_mem_singleton, OperationShape.inputId] at h
      cases hinput : shape.input with
      | none => exact .none
      | some ref =>
          rw [hinput] at h
          exact .some h
  | struct shape =>
      rw [uses, List.forall_mem_map] at h
      exact .struct (List.forall₂_same.mpr fun entry hentry => ⟨rfl, h entry hentry⟩)
  | list shape => exact .list (h _ List.mem_cons_self)
  | set shape => exact .set (h _ List.mem_cons_self)
  | map shape =>
      exact .map (h _ List.mem_cons_self) (h _ (List.mem_cons_of_mem _ List.mem_cons_self))
  | union shape =>
      rw [uses, List.forall_mem_map] at h
      refine .union ?_
      cases hfirst : shape.members.first? with
      | none => exact .none
      | some entry => exact .some (h entry (by simp [hfirst]))
  | enum shape => exact .enum rfl
  | intEnum shape => exact .intEnum rfl
  | simple kind traits => exact .simple kind traits traits

/-- Two documents in which ids that stand for one another lead to shapes that match.  Ids outside
the prelude have the same local name as what stands for them, and stand for one id only. -/
structure Document.Corresponds (same : String → String → Prop) (document other : Document) :
    Prop where
  lookup? : ∀ {id id'}, same id id' →
    Option.Rel (Shape.Matches same) (document.lookup? id) (other.lookup? id')
  localName_eq : ∀ {id id'}, same id id' → Prelude.kind? id = none → localName id' = localName id
  eq_iff : ∀ {id id' next next'}, same id id' → Prelude.kind? id = none → same next next' →
    (next = id ↔ next' = id')

namespace Document.Corresponds

variable {document other : Document} (h : document.Corresponds same other) {id id' : String}

include h

theorem resolve (hid : same id id') :
    Alike same (Shape.Matches same) (document.resolve id) (other.resolve id') := by
  have hlookup := h.lookup? hid
  rw [Document.resolve, Document.resolve]
  generalize document.lookup? id = found, other.lookup? id' = found' at hlookup ⊢
  cases hlookup with
  | none => exact .error (.shapeNotFound hid)
  | some hshape => exact .ok hshape

theorem resolveValue (hid : same id id') :
    Alike same (Shape.Matches same) (document.resolveValue id) (other.resolveValue id') := by
  apply alike_bind (h.resolve hid)
  intro shape shape' _ _ hshape
  rw [Shape.requireValue, Shape.requireValue, hshape.kind_eq]
  split
  · exact .ok hshape
  · exact .error (.notAValue _ hid)

theorem resolveOperation (hid : same id id') :
    Alike same (OperationShape.Matches same) (document.resolveOperation id)
      (other.resolveOperation id') := by
  apply alike_bind (h.resolve hid)
  intro shape shape' _ _ hshape
  cases hshape with
  | operation hoperation => exact .ok hoperation
  | _ => exact .error (.typeMismatch _ _ hid)

theorem resolveResource (hid : same id id') :
    Alike same (ResourceShape.Matches same) (document.resolveResource id)
      (other.resolveResource id') := by
  apply alike_bind (h.resolve hid)
  intro shape shape' _ _ hshape
  cases hshape with
  | resource hresource => exact .ok hresource
  | _ => exact .error (.typeMismatch _ _ hid)

end Document.Corresponds

end ShapeCatalog
