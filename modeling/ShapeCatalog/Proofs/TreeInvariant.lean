import ShapeCatalog.Proofs.Extraction

/-!
The invariant of catalog trees.  The id of a resource goes on from the id of its parent, the id
of an operation from the short name of its service at any depth, and every list of children is in
the order of names.
-/

namespace ShapeCatalog

open Collation Json

namespace Example

variable {α β : Type} {post : α → Prop}

/-- Whatever a computation gives has a property. -/
def Ensures (body : Exemplifying α) (post : α → Prop) : Prop :=
  ∀ active value, (body.run active).1 = .ok value → post value

theorem ensures_pure {value : α} (h : post value) : Ensures (pure value) post := by
  intro active result hresult
  exact Except.ok.inj hresult ▸ h

theorem ensures_bind {body : Exemplifying β} {next : β → Exemplifying α}
    (h : ∀ value, Ensures (next value) post) : Ensures (body >>= next) post := by
  intro active result hresult
  change ((ExceptT.bindCont next (body.run active).1) (body.run active).2).1 = _ at hresult
  cases hbody : (body.run active).1 with
  | ok value =>
      rw [hbody] at hresult
      exact h value _ result hresult
  | error error =>
      rw [hbody] at hresult
      cases hresult

theorem ensures_holding {id : String} {body : Exemplifying α} (h : Ensures body post) :
    Ensures (holding id body) post := by
  intro active result hresult
  change (if active.contains id = true then body.run active
    else ((body.run (id :: active)).1, (body.run (id :: active)).2.erase id)).1 = _ at hresult
  split at hresult
  · exact h active result hresult
  · exact h (id :: active) result hresult

/-- Whether a value is an object. -/
def IsObject (value : Value) : Prop :=
  ∃ entries, value = .object entries

/-- What may be the input of an operation has an object as its example. -/
theorem ensures_ofShape_isObject {document : Document} {frames : Nat} {id name : String}
    {shape : Shape} (hshape : shape.isInput = true) :
    Ensures (ofShape document (frames + 1) id shape name) IsObject := by
  cases shape with
  | struct shape =>
      rw [ofShape]
      refine ensures_holding (ensures_bind fun entries => ?_)
      exact ensures_pure ⟨entries, rfl⟩
  | simple kind traits =>
      cases kind with
      | unit =>
          rw [ofShape]
          exact ensures_holding (ensures_pure ⟨[], rfl⟩)
      | _ => cases hshape
  | _ => cases hshape

end Example

theorem Model.isObject_requestTemplate {model : Model} {id name : String} {input : Shape}
    {template : Value} (hlookup : model.document.lookup? id = some input)
    (hinput : input.isInput = true) (h : model.requestTemplate id name = .ok template) :
    Example.IsObject template := by
  have hvalue : model.document.resolveValue id = .ok input := by
    rw [Document.resolveValue, Document.resolve_eq_ok.mpr hlookup]
    cases input <;> first | rfl | cases hinput
  rw [Model.requestTemplate, Document.exemplify, hvalue] at h
  exact Example.ensures_ofShape_isObject hinput [] template h

/-- An operation of a service with a short name: its id goes on from the short name, its method name
has the first character in lower case, and its request is an object. -/
structure Operation.Fits (shortName : String) (operation : Operation) : Prop where
  operationId : operation.operationId = shortName ++ "." ++ operation.name
  methodName : operation.methodName.toList =
    (operation.name.toList.take 1).flatMap Unicode.lower ++ operation.name.toList.drop 1
  requestTemplate : Example.IsObject operation.requestTemplate

/-- A node of a service with a short name: the ids of its resources go on from its own, its
operations fit the service, and both lists are in the order of names. -/
structure Node.Fits (shortName : String) (node : Node) : Prop where
  resourceIds : ∀ resource ∈ node.resources, resource.nodeId = node.id ++ "." ++ resource.name
  operations : ∀ operation ∈ node.operations, operation.Fits shortName
  resources_ascending : Ascending Resource.name node.resources
  operations_ascending : Ascending Operation.name node.operations

/-- A resource below a node: its id goes on from that of the node, and it fits the service with
everything below it. -/
structure Resource.FitsBelow (shortName parentId : String) (resource : Resource) : Prop where
  nodeId : resource.nodeId = parentId ++ "." ++ resource.name
  family : ∀ inner ∈ resource.family, (Node.resource inner).Fits shortName

theorem Resource.fits_families {shortName parentId : String} {children : List Resource}
    (h : ∀ child ∈ children, child.FitsBelow shortName parentId) :
    ∀ inner ∈ Resource.families children, (Node.resource inner).Fits shortName := by
  intro inner hinner
  obtain ⟨child, hmem, hfamily⟩ := Resource.mem_families.mp hinner
  exact (h child hmem).family inner hfamily

theorem toList_methodName (name : String) :
    (methodName name).toList
      = (name.toList.take 1).flatMap Unicode.lower ++ name.toList.drop 1 := by
  rw [methodName]
  cases name.toList with
  | nil => rfl
  | cons first rest => simp

/-- What is made for every reference has a property, in whatever order it stands. -/
theorem of_mem_sortByName {α β : Type} {name : β → String} {relation : α → β → Prop}
    {post : β → Prop} {refs : List α} {found : List β} (h : List.Forall₂ relation refs found)
    (hpost : ∀ ref item, relation ref item → post item) :
    ∀ item ∈ sortByName name found, post item := by
  intro item hitem
  obtain ⟨ref, -, hrelation⟩ := exists_left_of_forall₂ h ((perm_sortByName found).mem_iff.mp hitem)
  exact hpost ref item hrelation

namespace Model

variable {model : Model}

theorem fits_operation {ref : ShapeRef} {operation : Operation}
    (h : model.operation ref = .ok operation) : operation.Fits model.shortName := by
  obtain ⟨shape, input, template, -, hlookup, hinput, htemplate, rfl⟩ := operation_eq_ok.mp h
  refine ⟨rfl, ?_, isObject_requestTemplate hlookup hinput htemplate⟩
  dsimp only
  exact toList_methodName ref.localName

theorem fits_operations {refs : List ShapeRef} {operations : List Operation}
    (h : model.operations refs = .ok operations) :
    (∀ operation ∈ operations, operation.Fits model.shortName) ∧
      Ascending Operation.name operations := by
  obtain ⟨found, hfound, rfl⟩ := operations_eq_ok.mp h
  refine ⟨of_mem_sortByName hfound ?_, ascending_sortByName found⟩
  intro ref operation hoperation
  exact fits_operation hoperation

/-- The children of a node fit below it, and so the node itself fits. -/
theorem fits_resource {levels : Nat} {parentId : String} {ref : ShapeRef} {resource : Resource}
    (h : model.resource levels parentId ref = .ok resource) :
    resource.FitsBelow model.shortName parentId := by
  induction levels generalizing parentId ref resource with
  | zero => cases h
  | succ levels ih =>
      obtain ⟨shape, children, operations, -, hchildren, hoperations, rfl⟩ := resource_eq_ok.mp h
      have hbelow : ∀ child ∈ sortByName Resource.name children,
          child.FitsBelow model.shortName (parentId ++ "." ++ ref.localName) :=
        of_mem_sortByName hchildren fun _ _ => ih
      obtain ⟨hfits, hascending⟩ := fits_operations hoperations
      refine ⟨rfl, ?_⟩
      intro inner hinner
      rcases Resource.mem_family.mp hinner with rfl | hinner
      · exact ⟨fun child hmem => (hbelow child hmem).nodeId, hfits, ascending_sortByName children,
          hascending⟩
      · exact Resource.fits_families hbelow inner hinner

theorem fits_service {id : String} {shape : ServiceShape} {service : Service}
    (h : model.service id shape = .ok service) :
    (service.nodeId = model.shortName ∧ service.shortName = model.shortName) ∧
      ∀ node ∈ service.nodes, node.Fits service.shortName := by
  obtain ⟨children, operations, hchildren, hoperations, rfl⟩ := service_eq_ok.mp h
  have hbelow : ∀ child ∈ sortByName Resource.name children,
      child.FitsBelow model.shortName model.shortName :=
    of_mem_sortByName hchildren fun _ _ => fits_resource
  obtain ⟨hfits, hascending⟩ := fits_operations hoperations
  refine ⟨⟨rfl, rfl⟩, ?_⟩
  intro node hnode
  rw [Service.nodes, List.mem_cons, List.mem_map] at hnode
  rcases hnode with rfl | ⟨inner, hinner, rfl⟩
  · exact ⟨fun child hmem => (hbelow child hmem).nodeId, hfits, ascending_sortByName children,
      hascending⟩
  · exact Resource.fits_families hbelow inner hinner

end Model

/-- A catalog of a list of models: its services are in the order of names, each is made from a
service shape of one of the models and is known by that model's short name, and all nodes fit. -/
structure Catalog.Fits (models : List Model) (catalog : Catalog) : Prop where
  services_ascending : Ascending Service.name catalog.services
  services : ∀ service ∈ catalog.services, ∃ model ∈ models,
    (∃ entry ∈ model.serviceShapes, model.service entry.1 entry.2 = .ok service) ∧
      service.nodeId = model.shortName ∧ service.shortName = model.shortName
  nodes : ∀ service ∈ catalog.services, ∀ node ∈ service.nodes, node.Fits service.shortName

/-- Every catalog that is made fits the models that it is made from. -/
theorem Catalog.fits_of_ofModels {models : List Model} {catalog : Catalog}
    (h : Catalog.ofModels models = .ok catalog) : catalog.Fits models := by
  obtain ⟨found, hfound, hservices⟩ := Catalog.ofModels_eq_ok.mp h
  have hmade : ∀ service ∈ catalog.services, ∃ model ∈ models,
      ∃ entry ∈ model.serviceShapes, model.service entry.1 entry.2 = .ok service := by
    intro service hmem
    rw [hservices, (perm_sortByName _).mem_iff, List.mem_flatten] at hmem
    obtain ⟨services, hmem, hservice⟩ := hmem
    obtain ⟨model, hmodel, hmodelServices⟩ := exists_left_of_forall₂ hfound hmem
    obtain ⟨entry, hentry, hmade⟩ := exists_left_of_forall₂
      (Model.services_eq_ok.mp hmodelServices) hservice
    exact ⟨model, hmodel, entry, hentry, hmade⟩
  refine ⟨hservices ▸ ascending_sortByName _, ?_, ?_⟩
  · intro service hmem
    obtain ⟨model, hmodel, entry, hentry, hmade⟩ := hmade service hmem
    exact ⟨model, hmodel, ⟨entry, hentry, hmade⟩, (Model.fits_service hmade).1⟩
  · intro service hmem
    obtain ⟨model, -, entry, -, hmade⟩ := hmade service hmem
    exact (Model.fits_service hmade).2

/-- In a catalog with a resource below a resource, operations at any depth go on from the short name
of the service. -/
theorem Library.fits_catalog :
    Catalog.ofModels [model] = .ok catalog ∧ catalog.Fits [model] :=
  ⟨ofModels_model, Catalog.fits_of_ofModels ofModels_model⟩

end ShapeCatalog
