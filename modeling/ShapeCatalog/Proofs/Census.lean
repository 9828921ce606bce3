import Mathlib.Algebra.GroupWithZero.Nat
import ShapeCatalog.Proofs.Extraction
import ShapeCatalog.Proofs.Unfolding

/-!
Nothing is lost on the way to a catalog and nothing is made twice.  At every node the lists of
children are the stable sorts of one child for each reference, and the counts of a catalog are the
numbers of references in the unfolded services.
-/

namespace ShapeCatalog

open Collation

/-- One operation for every reference of a list, sorted by name. -/
def OperationsOf (model : Model) (refs : List ShapeRef) (operations : List Operation) : Prop :=
  ∃ found, List.Forall₂ (fun ref operation => model.operation ref = .ok operation) refs found ∧
    StableSort Operation.name found operations

/-- The resource of a reference below a parent, with everything below it: one child for every entry
in the list of child resources, and one operation for every reference to one, sorted by name. -/
inductive ResourceOf (model : Model) : (parentId : String) → ShapeRef → Resource → Prop
  | intro {parentId : String} {ref : ShapeRef} {shape : ResourceShape}
      {found children : List Resource} {operations : List Operation}
      (hshape : model.document.lookup? ref.target = some (.resource shape))
      (hlength : shape.resources.length = found.length)
      (hfound : ∀ pair ∈ shape.resources.zip found,
        ResourceOf model (parentId ++ "." ++ ref.localName) pair.1 pair.2)
      (hchildren : StableSort Resource.name found children)
      (hoperations : OperationsOf model shape.operationOrder operations) :
      ResourceOf model parentId ref
        ⟨parentId ++ "." ++ ref.localName, ref.localName, children, operations⟩

/-- The service of a service shape: one resource for every entry in its list of resources, and one
operation for every entry in its list of operations, sorted by name. -/
structure ServiceOf (model : Model) (id : String) (shape : ServiceShape) (service : Service) :
    Prop where
  nodeId : service.nodeId = model.shortName
  name : service.name = shape.displayName id
  shortName : service.shortName = model.shortName
  className : service.className = shape.clientId?
  resources : ∃ found, List.Forall₂ (ResourceOf model model.shortName) shape.resources found ∧
    StableSort Resource.name found service.resources
  operations : OperationsOf model shape.operations service.operations

namespace Model

variable {model : Model}

theorem operationsOf_of_operations {refs : List ShapeRef} {operations : List Operation}
    (h : model.operations refs = .ok operations) : OperationsOf model refs operations := by
  obtain ⟨found, hfound, rfl⟩ := operations_eq_ok.mp h
  exact ⟨found, hfound, stableSort_sortByName found⟩

theorem resourceOf_of_resource {levels : Nat} {parentId : String} {ref : ShapeRef}
    {resource : Resource} (h : model.resource levels parentId ref = .ok resource) :
    ResourceOf model parentId ref resource := by
  induction levels generalizing parentId ref resource with
  | zero => cases h
  | succ levels ih =>
      obtain ⟨shape, children, operations, hshape, hchildren, hoperations, rfl⟩ :=
        resource_eq_ok.mp h
      obtain ⟨hlength, hpairs⟩ := List.forall₂_iff_zip.mp (hchildren.imp fun _ _ => ih)
      rw [ResourceShape.operationRefs_eq] at hoperations
      exact .intro hshape hlength (fun pair hpair => hpairs hpair)
        (stableSort_sortByName children) (operationsOf_of_operations hoperations)

theorem serviceOf_of_service {id : String} {shape : ServiceShape} {service : Service}
    (h : model.service id shape = .ok service) : ServiceOf model id shape service := by
  obtain ⟨children, operations, hchildren, hoperations, rfl⟩ := service_eq_ok.mp h
  refine ⟨rfl, rfl, rfl, rfl, ?_, operationsOf_of_operations hoperations⟩
  exact ⟨children, hchildren.imp fun _ _ => resourceOf_of_resource,
    stableSort_sortByName children⟩

end Model

theorem Resource.resourceCountIn_eq_sum (resources : List Resource) :
    Resource.resourceCountIn resources
      = (resources.map fun resource => 1 + resource.resourceCount).sum := by
  induction resources with
  | nil => rfl
  | cons resource rest ih => rw [Resource.resourceCountIn, ih, List.map_cons, List.sum_cons]

theorem Resource.operationCountIn_eq_sum (resources : List Resource) :
    Resource.operationCountIn resources = (resources.map Resource.operationCount).sum := by
  induction resources with
  | nil => rfl
  | cons resource rest ih => rw [Resource.operationCountIn, ih, List.map_cons, List.sum_cons]

theorem Catalog.resourceCount_eq_sum (catalog : Catalog) :
    catalog.resourceCount = (catalog.services.map Service.resourceCount).sum := by
  rw [Catalog.resourceCount, List.sum_eq_foldr, List.foldr_map]

theorem Catalog.operationCount_eq_sum (catalog : Catalog) :
    catalog.operationCount = (catalog.services.map Service.operationCount).sum := by
  rw [Catalog.operationCount, List.sum_eq_foldr, List.foldr_map]

/-- Sums over a sorted list of children are sums over the references that they stand for. -/
theorem sum_map_sortByName {α β : Type} {name : β → String} {size : α → Nat} {measure : β → Nat}
    {refs : List α} {children : List β}
    (h : List.Forall₂ (fun ref child => measure child = size ref) refs children) :
    ((sortByName name children).map measure).sum = (refs.map size).sum := by
  rw [((perm_sortByName children).map measure).sum_nat]
  induction h with
  | nil => rfl
  | cons hsize _ ih => rw [List.map_cons, List.map_cons, List.sum_cons, List.sum_cons, hsize, ih]

namespace Model

variable {model : Model} (hresources : model.document.ResourcesAcyclic)

theorem length_operations {refs : List ShapeRef} {operations : List Operation}
    (h : model.operations refs = .ok operations) : operations.length = refs.length := by
  obtain ⟨found, hfound, rfl⟩ := operations_eq_ok.mp h
  rw [(perm_sortByName found).length_eq, hfound.length_eq]

theorem resourceCount_of_resource {levels : Nat} {parentId : String} {ref : ShapeRef}
    {resource : Resource} (h : model.resource levels parentId ref = .ok resource) :
    1 + resource.resourceCount = (model.document.unfold hresources ref).resourceRefs.length := by
  induction levels generalizing parentId ref resource with
  | zero => cases h
  | succ levels ih =>
      obtain ⟨shape, children, operations, hshape, hchildren, -, rfl⟩ := resource_eq_ok.mp h
      rw [Document.unfold_of_resource hshape, RefTree.resourceRefs,
        RefTree.resourceRefsIn_eq_flatMap, List.flatMap_map, List.length_cons,
        List.length_flatMap, Resource.resourceCount, Resource.resourceCountIn_eq_sum,
        sum_map_sortByName (hchildren.imp fun _ _ => ih), Nat.add_comm]

theorem operationCount_of_resource {levels : Nat} {parentId : String} {ref : ShapeRef}
    {resource : Resource} (h : model.resource levels parentId ref = .ok resource) :
    resource.operationCount = (model.document.unfold hresources ref).operationRefs.length := by
  induction levels generalizing parentId ref resource with
  | zero => cases h
  | succ levels ih =>
      obtain ⟨shape, children, operations, hshape, hchildren, hoperations, rfl⟩ :=
        resource_eq_ok.mp h
      rw [ResourceShape.operationRefs_eq] at hoperations
      rw [Document.unfold_of_resource hshape, RefTree.operationRefs,
        RefTree.operationRefsIn_eq_flatMap, List.flatMap_map, List.length_append,
        List.length_flatMap, Resource.operationCount, Resource.operationCountIn_eq_sum,
        sum_map_sortByName (hchildren.imp fun _ _ => ih), length_operations hoperations,
        Nat.add_comm]

end Model

namespace ServiceEntry

variable {entry : ServiceEntry} {service : Service}

theorem resourceCount_of_service
    (h : entry.model.service entry.id entry.shape = .ok service) :
    service.resourceCount = entry.resourceRefs.length := by
  obtain ⟨children, operations, hchildren, -, rfl⟩ := Model.service_eq_ok.mp h
  rw [resourceRefs, trees, RefTree.resourceRefsIn_eq_flatMap, List.flatMap_map, List.length_flatMap,
    Service.resourceCount, Resource.resourceCountIn_eq_sum]
  exact sum_map_sortByName (hchildren.imp fun _ _ =>
    Model.resourceCount_of_resource entry.model.resources_acyclic)

theorem operationCount_of_service
    (h : entry.model.service entry.id entry.shape = .ok service) :
    service.operationCount = entry.operationRefs.length := by
  obtain ⟨children, operations, hchildren, hoperations, rfl⟩ := Model.service_eq_ok.mp h
  rw [operationRefs, trees, RefTree.operationRefsIn_eq_flatMap, List.flatMap_map,
    List.length_append, List.length_flatMap, Service.operationCount,
    Resource.operationCountIn_eq_sum, Model.length_operations hoperations, Nat.add_comm]
  congr 1
  exact sum_map_sortByName (hchildren.imp fun _ _ =>
    Model.operationCount_of_resource entry.model.resources_acyclic)

end ServiceEntry

theorem Catalog.services_of_ofModels {models : List AcyclicModel} {catalog : Catalog}
    (h : Catalog.ofModels (models.map AcyclicModel.toModel) = .ok catalog) :
    ∃ found, List.Forall₂ (fun entry service =>
        entry.model.service entry.id entry.shape = .ok service)
      (AcyclicModel.serviceEntries models) found ∧
      catalog.services = sortByName Service.name found := by
  obtain ⟨found, hfound, hservices⟩ := Catalog.ofModels_eq_ok.mp h
  refine ⟨found.flatten, forall₂_flatMap ?_, hservices⟩
  refine (List.forall₂_map_left_iff.mp hfound).imp fun model services hmodel => ?_
  have hentries := Model.services_eq_ok.mp hmodel
  exact List.forall₂_map_left_iff.mpr hentries

/-- A catalog with one service for every service shape of a list of models, stably sorted, below
which everything is made in the same way; its counts are the numbers of references in the
unfolded services. -/
structure Catalog.CensusOf (models : List AcyclicModel) (catalog : Catalog) : Prop where
  services : ∃ found, List.Forall₂ (fun entry service =>
      ServiceOf entry.model.toModel entry.id entry.shape service)
    (AcyclicModel.serviceEntries models) found ∧ StableSort Service.name found catalog.services
  resourceCount : catalog.resourceCount
    = ((AcyclicModel.serviceEntries models).flatMap ServiceEntry.resourceRefs).length
  operationCount : catalog.operationCount
    = ((AcyclicModel.serviceEntries models).flatMap ServiceEntry.operationRefs).length

/-- In every catalog that is made nothing is lost and nothing is made twice. -/
theorem Catalog.census_of_ofModels {models : List AcyclicModel} {catalog : Catalog}
    (h : Catalog.ofModels (models.map AcyclicModel.toModel) = .ok catalog) :
    catalog.CensusOf models := by
  obtain ⟨found, hfound, hservices⟩ := Catalog.services_of_ofModels h
  refine ⟨⟨found, hfound.imp fun _ _ => Model.serviceOf_of_service, ?_⟩, ?_, ?_⟩
  · rw [hservices]
    exact stableSort_sortByName found
  · rw [Catalog.resourceCount_eq_sum, hservices, List.length_flatMap]
    exact sum_map_sortByName (hfound.imp fun _ _ => ServiceEntry.resourceCount_of_service)
  · rw [Catalog.operationCount_eq_sum, hservices, List.length_flatMap]
    exact sum_map_sortByName (hfound.imp fun _ _ => ServiceEntry.operationCount_of_service)

namespace Library

theorem resourcesAcyclic_model : model.document.ResourcesAcyclic := by
  apply acyclic_of_rank fun id => if id = "n#Shelf" then 1 else 0
  rintro id next ⟨shape, hlookup, ref, href, rfl⟩
  rcases Document.lookup_cases hlookup with ⟨kind, -, heq⟩ | ⟨-, hmem⟩
  · cases heq
  · simp only [model, List.mem_cons, Prod.mk.injEq, reduceCtorEq, and_false, Shape.resource.injEq,
      List.not_mem_nil, or_false, false_or] at hmem
    rcases hmem with ⟨rfl, rfl⟩ | ⟨rfl, rfl⟩ | ⟨rfl, rfl⟩
    · simp only [resourceShape, List.map_cons, List.map_nil, List.mem_cons, List.not_mem_nil,
        or_false] at href
      rcases href with rfl | rfl | rfl <;> decide
    · cases href
    · cases href

theorem keysAcyclic_model : model.document.KeysAcyclic := by
  apply Document.keysAcyclic_of_height fun _ => 0
  decide

def acyclicModel : AcyclicModel :=
  ⟨model, resourcesAcyclic_model, keysAcyclic_model⟩

/-- A resource that is referred to twice counts twice, and so does its operation; the operation for
deletion is not counted. -/
theorem census_catalog :
    Catalog.ofModels ([acyclicModel].map AcyclicModel.toModel) = .ok catalog ∧
      catalog.CensusOf [acyclicModel] ∧
      ((AcyclicModel.serviceEntries [acyclicModel]).flatMap ServiceEntry.resourceRefs).length = 4 ∧
      ((AcyclicModel.serviceEntries [acyclicModel]).flatMap
        ServiceEntry.operationRefs).length = 5 := by
  have hmodels : [acyclicModel].map AcyclicModel.toModel = [model] := rfl
  have hmade : Catalog.ofModels ([acyclicModel].map AcyclicModel.toModel) = .ok catalog := by
    rw [hmodels, ofModels_model]
  have hcensus : catalog.CensusOf [acyclicModel] := Catalog.census_of_ofModels hmade
  exact ⟨hmade, hcensus, hcensus.resourceCount.symm, hcensus.operationCount.symm⟩

end Library

end ShapeCatalog
