import ShapeCatalog.Proofs.FrameBound

/-!
Services made side by side.  Where two documents correspond and the same is requested of ids that
stand for one another, what references lead to becomes the same operations and the same resources,
or stops at ids that stand for one another.
-/

namespace ShapeCatalog

variable {same : String → String → Prop}

theorem Document.resolve_unitId (document : Document) :
    document.resolve Prelude.unitId = .ok (.simple .unit SortedMap.empty) :=
  rfl

namespace Model

theorem mem_serviceShapes {model : Model} {id : String} {shape : ServiceShape} :
    (id, shape) ∈ model.serviceShapes ↔
      (id, Shape.service shape) ∈ model.document.shapes.entries := by
  rw [serviceShapes, List.mem_filterMap]
  constructor
  · rintro ⟨⟨other, found⟩, hmem, heq⟩
    cases found with
    | service found =>
        cases heq
        exact hmem
    | _ => cases heq
  · exact fun hmem => ⟨_, hmem, rfl⟩

/-- An operation without an input is requested with the empty object. -/
theorem requestTemplate_unitId (model : Model) (name : String) :
    model.requestTemplate Prelude.unitId name = .ok Example.emptyObject :=
  rfl

/-- Two models under one short name.  Their documents correspond, and the same is requested of ids
that stand for one another. -/
structure Corresponds (same : String → String → Prop) (model other : Model) : Prop where
  shortName_eq : other.shortName = model.shortName
  document : model.document.Corresponds same other.document
  requestTemplate : ∀ {id id'} (name : String), same id id' →
    Alike same Eq (model.requestTemplate id name) (other.requestTemplate id' name)

namespace Corresponds

variable {model other : Model} (h : model.Corresponds same other)

include h

/-- A reference that leads to a shape of the document has the local name of what stands for it. -/
theorem localName_eq {ref ref' : ShapeRef} (href : ref.Matches same ref') {shape : Shape}
    (hshape : model.document.lookup? ref.target = some shape)
    (hcompound : ∀ kind traits, shape ≠ .simple kind traits) : ref'.localName = ref.localName :=
  h.document.localName_eq href
    (Document.kind?_eq_none (Document.mem_ownIds_of_lookup hshape hcompound))

theorem operation {ref ref' : ShapeRef} (href : ref.Matches same ref') :
    Alike same Eq (model.operation ref) (other.operation ref') := by
  apply alike_bind (h.document.resolveOperation href)
  intro shape shape' hshape _ hmatches
  have hname := h.localName_eq href (Document.resolveOperation_eq_ok.mp hshape) (by simp)
  obtain ⟨hinput, hdescription⟩ := hmatches
  rw [OperationShape.inputId, OperationShape.inputId]
  generalize shape.input = input, shape'.input = input' at hinput ⊢
  cases hinput with
  | none =>
      rw [Document.resolve_unitId, Document.resolve_unitId, ok_bind, ok_bind,
        requestTemplate_unitId, requestTemplate_unitId, hname, hdescription, h.shortName_eq]
      exact .ok rfl
  | @some input input' hinput =>
      apply alike_bind (h.document.resolve hinput)
      intro inputShape inputShape' _ _ hinputShape
      rw [hinputShape.isInput_eq, hinputShape.kind_eq, hname, hdescription, h.shortName_eq]
      split
      · apply alike_bind (h.requestTemplate ref.localName hinput)
        rintro template _ _ _ rfl
        exact .ok rfl
      · exact .error (.unsupportedInput _ href hinput)

theorem operations {refs refs' : List ShapeRef}
    (hrefs : List.Forall₂ (ShapeRef.Matches same) refs refs') :
    Alike same Eq (model.operations refs) (other.operations refs') := by
  apply alike_bind (alike_mapM (hrefs.imp fun _ _ href => h.operation href))
  rintro found _ _ _ rfl
  exact .ok rfl

/-- References to resources that stand for one another become the same if the references below them
do.  The numbers of levels that are left need not be the same. -/
theorem resource_succ {levels levels' : Nat} {parentId : String} {ref ref' : ShapeRef}
    (href : ref.Matches same ref')
    (hbelow : ∀ {nodeId child child'}, model.document.ResourceStep ref.target child.target →
      child.Matches same child' →
      Alike same Eq (model.resource levels nodeId child) (other.resource levels' nodeId child')) :
    Alike same Eq (model.resource (levels + 1) parentId ref)
      (other.resource (levels' + 1) parentId ref') := by
  apply alike_bind (h.document.resolveResource href)
  intro shape shape' hshape _ hmatches
  have hlookup := Document.resolveResource_eq_ok.mp hshape
  rw [h.localName_eq href hlookup (by simp)]
  apply alike_bind
  · apply alike_mapM
    apply (forall₂_mem_left hmatches.resources).imp
    rintro child child' ⟨hchild, hmatch⟩
    exact hbelow ⟨shape, hlookup, child, hchild, rfl⟩ hmatch
  rintro resources _ _ _ rfl
  apply alike_bind (h.operations hmatches.operations)
  rintro operations _ _ _ rfl
  exact .ok rfl

theorem resource (levels : Nat) {parentId : String} {ref ref' : ShapeRef}
    (href : ref.Matches same ref') :
    Alike same Eq (model.resource levels parentId ref) (other.resource levels parentId ref') := by
  induction levels generalizing parentId ref ref' with
  | zero => exact .error (.endlessResource href)
  | succ levels ih => exact h.resource_succ href fun _ hmatch => ih hmatch

/-- Services of one display name and one client id are the same if their resources are. -/
theorem service {id id' : String} {shape shape' : ServiceShape}
    (hname : shape'.displayName id' = shape.displayName id)
    (hclient : shape'.clientId? = shape.clientId?)
    (hresources : List.Forall₂ (fun ref ref' =>
      Alike same Eq (model.resource model.maxLevels model.shortName ref)
        (other.resource other.maxLevels model.shortName ref')) shape.resources shape'.resources)
    (hoperations : List.Forall₂ (ShapeRef.Matches same) shape.operations shape'.operations) :
    Alike same Eq (model.service id shape) (other.service id' shape') := by
  rw [Model.service, Model.service, hname, hclient, h.shortName_eq]
  apply alike_bind (alike_mapM hresources)
  rintro resources _ _ _ rfl
  apply alike_bind (h.operations hoperations)
  rintro operations _ _ _ rfl
  exact .ok rfl

end Corresponds

theorem corresponds_self (model : Model) : model.Corresponds Eq model where
  shortName_eq := rfl
  document := model.document.corresponds_self
  requestTemplate := fun name hid => (Example.mirrors_exemplifyWithin
    model.document.corresponds_self _ name hid (Example.activeMatch_eq [])).alike

/-- Levels that are more than the resources below a reference settle what it becomes. -/
theorem resource_levels_eq {model : Model} (hresources : model.document.ResourcesAcyclic)
    {levels levels' : Nat} {parentId : String} {ref : ShapeRef}
    (hlevels : model.document.rank model.document.ResourceStep ref.target < levels)
    (hlevels' : model.document.rank model.document.ResourceStep ref.target < levels') :
    model.resource levels parentId ref = model.resource levels' parentId ref := by
  induction levels generalizing levels' parentId ref with
  | zero => exact absurd hlevels (Nat.not_lt_zero _)
  | succ levels ih =>
      obtain ⟨fewer, rfl⟩ : ∃ fewer, levels' = fewer + 1 := ⟨levels' - 1, by omega⟩
      apply eq_of_alike fun _ _ heq => heq
      apply model.corresponds_self.resource_succ rfl
      intro nodeId child child' hstep hmatch
      have hrank := Document.rank_lt_of_step hresources
        (Document.mem_ownIds_of_resourceStep hstep) hstep
      have hchild : model.resource levels nodeId child = model.resource fewer nodeId child :=
        ih (by omega) (by omega)
      rw [hchild]
      exact model.corresponds_self.resource fewer hmatch

end Model

end ShapeCatalog
