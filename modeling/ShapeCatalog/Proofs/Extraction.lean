import ShapeCatalog.Catalog.OfModels
import ShapeCatalog.Proofs.NameOrder
import ShapeCatalog.Proofs.Outcome
import ShapeCatalog.Proofs.References

/-!
What a catalog was made from.  Each part of a catalog that was made without a fault is taken apart
into the shape that it stands for and the parts below it.
-/

namespace ShapeCatalog

open Collation

namespace Document

variable {document : Document} {id : String}

theorem resolve_eq_ok {shape : Shape} :
    document.resolve id = .ok shape ↔ document.lookup? id = some shape := by
  rw [resolve]
  cases document.lookup? id <;> simp

theorem resolveOperation_eq_ok {shape : OperationShape} :
    document.resolveOperation id = .ok shape ↔
      document.lookup? id = some (.operation shape) := by
  rw [resolveOperation, resolve]
  cases document.lookup? id with
  | none => simp [Except.bind]
  | some found => cases found <;> simp [Except.bind]

theorem resolveResource_eq_ok {shape : ResourceShape} :
    document.resolveResource id = .ok shape ↔
      document.lookup? id = some (.resource shape) := by
  rw [resolveResource, resolve]
  cases document.lookup? id with
  | none => simp [Except.bind]
  | some found => cases found <;> simp [Except.bind]

end Document

namespace Model

variable {model : Model} {ref : ShapeRef} {refs : List ShapeRef}

theorem operation_eq_ok {operation : Operation} :
    model.operation ref = .ok operation ↔ ∃ shape input template,
      model.document.lookup? ref.target = some (.operation shape) ∧
      model.document.lookup? shape.inputId = some input ∧ input.isInput = true ∧
      model.requestTemplate shape.inputId ref.localName = .ok template ∧
      operation = {
        name := ref.localName
        operationId := model.shortName ++ "." ++ ref.localName
        methodName := methodName ref.localName
        description := shape.description?
        requestTemplate := template } := by
  rw [Model.operation, bind_eq_ok]
  constructor
  · rintro ⟨shape, hshape, h⟩
    obtain ⟨input, hinput, h⟩ := bind_eq_ok.mp h
    split at h
    · next hkind =>
        obtain ⟨template, htemplate, h⟩ := bind_eq_ok.mp h
        exact ⟨shape, input, template, Document.resolveOperation_eq_ok.mp hshape,
          Document.resolve_eq_ok.mp hinput, hkind, htemplate, (pure_eq_ok.mp h).symm⟩
    · cases h
  · rintro ⟨shape, input, template, hshape, hinput, hkind, htemplate, rfl⟩
    refine ⟨shape, Document.resolveOperation_eq_ok.mpr hshape, ?_⟩
    refine bind_eq_ok.mpr ⟨input, Document.resolve_eq_ok.mpr hinput, ?_⟩
    rw [if_pos hkind]
    exact bind_eq_ok.mpr ⟨template, htemplate, rfl⟩

theorem operations_eq_ok {operations : List Operation} :
    model.operations refs = .ok operations ↔ ∃ found,
      List.Forall₂ (fun ref operation => model.operation ref = .ok operation) refs found ∧
      operations = sortByName Operation.name found := by
  rw [Model.operations, bind_eq_ok]
  constructor
  · rintro ⟨found, hfound, h⟩
    exact ⟨found, mapM_eq_ok.mp hfound, (pure_eq_ok.mp h).symm⟩
  · rintro ⟨found, hfound, rfl⟩
    exact ⟨found, mapM_eq_ok.mpr hfound, rfl⟩

theorem resource_eq_ok {levels : Nat} {parentId : String} {resource : Resource} :
    model.resource (levels + 1) parentId ref = .ok resource ↔ ∃ shape children operations,
      model.document.lookup? ref.target = some (.resource shape) ∧
      List.Forall₂ (fun child below =>
        model.resource levels (parentId ++ "." ++ ref.localName) child = .ok below)
        shape.resources children ∧
      model.operations shape.operationRefs = .ok operations ∧
      resource = {
        nodeId := parentId ++ "." ++ ref.localName
        name := ref.localName
        resources := sortByName Resource.name children
        operations := operations } := by
  rw [Model.resource, bind_eq_ok]
  constructor
  · rintro ⟨shape, hshape, h⟩
    obtain ⟨children, hchildren, h⟩ := bind_eq_ok.mp h
    obtain ⟨operations, hoperations, h⟩ := bind_eq_ok.mp h
    exact ⟨shape, children, operations, Document.resolveResource_eq_ok.mp hshape,
      mapM_eq_ok.mp hchildren, hoperations, (pure_eq_ok.mp h).symm⟩
  · rintro ⟨shape, children, operations, hshape, hchildren, hoperations, rfl⟩
    refine ⟨shape, Document.resolveResource_eq_ok.mpr hshape, ?_⟩
    refine bind_eq_ok.mpr ⟨children, mapM_eq_ok.mpr hchildren, ?_⟩
    exact bind_eq_ok.mpr ⟨operations, hoperations, rfl⟩

theorem service_eq_ok {id : String} {shape : ServiceShape} {service : Service} :
    model.service id shape = .ok service ↔ ∃ children operations,
      List.Forall₂ (fun child below =>
        model.resource model.maxLevels model.shortName child = .ok below)
        shape.resources children ∧
      model.operations shape.operations = .ok operations ∧
      service = {
        nodeId := model.shortName
        name := shape.displayName id
        shortName := model.shortName
        className := shape.clientId?
        resources := sortByName Resource.name children
        operations := operations } := by
  rw [Model.service, bind_eq_ok]
  constructor
  · rintro ⟨children, hchildren, h⟩
    obtain ⟨operations, hoperations, h⟩ := bind_eq_ok.mp h
    exact ⟨children, operations, mapM_eq_ok.mp hchildren, hoperations, (pure_eq_ok.mp h).symm⟩
  · rintro ⟨children, operations, hchildren, hoperations, rfl⟩
    refine ⟨children, mapM_eq_ok.mpr hchildren, ?_⟩
    exact bind_eq_ok.mpr ⟨operations, hoperations, rfl⟩

theorem services_eq_ok {services : List Service} :
    model.services = .ok services ↔
      List.Forall₂ (fun entry service => model.service entry.1 entry.2 = .ok service)
        model.serviceShapes services :=
  mapM_eq_ok

end Model

theorem Catalog.ofModels_eq_ok {models : List Model} {catalog : Catalog} :
    Catalog.ofModels models = .ok catalog ↔ ∃ found,
      List.Forall₂ (fun model services => model.services = .ok services) models found ∧
      catalog.services = sortByName Service.name found.flatten := by
  rw [Catalog.ofModels, bind_eq_ok]
  constructor
  · rintro ⟨found, hfound, h⟩
    exact ⟨found, mapM_eq_ok.mp hfound, (pure_eq_ok.mp h) ▸ rfl⟩
  · rintro ⟨found, hfound, h⟩
    exact ⟨found, mapM_eq_ok.mpr hfound, pure_eq_ok.mpr (by rw [← h])⟩

/-- The service shapes of a list of models, each with the model that it stands in. -/
def Model.placedShapes (models : List Model) : List (Model × String × ServiceShape) :=
  models.flatMap fun model => model.serviceShapes.map fun entry => (model, entry)

theorem Catalog.ofModels_eq_ok_iff_placed {models : List Model} {catalog : Catalog} :
    Catalog.ofModels models = .ok catalog ↔ ∃ found,
      List.Forall₂ (fun placed service => placed.1.service placed.2.1 placed.2.2 = .ok service)
        (Model.placedShapes models) found ∧
      catalog.services = sortByName Service.name found := by
  rw [ofModels_eq_ok, Model.placedShapes]
  simp only [forall₂_flatMap_iff, List.forall₂_map_left_iff, Model.services_eq_ok]
  constructor
  · rintro ⟨found, hfound, hservices⟩
    exact ⟨found.flatten, ⟨found, hfound, rfl⟩, hservices⟩
  · rintro ⟨_, ⟨found, hfound, rfl⟩, hservices⟩
    exact ⟨found, hfound, hservices⟩

namespace Library

/-- A resource with lists of operations and child resources, and the operations that read and delete
it. -/
def resourceShape (operations resources : List String) (read delete : Option String) :
    ResourceShape where
  identifiers := OrderedMap.empty
  create := none
  put := none
  read := read.map .bare
  update := none
  delete := delete.map .bare
  list := none
  operations := operations.map .bare
  collectionOperations := []
  resources := resources.map .bare
  traits := SortedMap.empty

def operationShape (input : Option String) : OperationShape :=
  ⟨input.map .bare, none, [], SortedMap.empty⟩

/-- A service with a resource below a resource.  One of the inner resources is referred to twice,
with another of the same local name in between, and the operation for deletion is missing. -/
def model : Model where
  shortName := "lib"
  document := {
    smithy := none
    shapes := ⟨[
      ("n#Library", .service ⟨none, [.bare "n#Ping"], [.bare "n#Shelf"], [], SortedMap.empty⟩),
      ("n#Shelf", .resource
        (resourceShape ["n#GetBook"] ["n#Book", "m#Book", "n#Book"] "n#AddBook" "n#Gone")),
      ("n#Book", .resource (resourceShape [] [] "n#Ping" none)),
      ("m#Book", .resource (resourceShape [] [] none none)),
      ("n#Ping", .operation (operationShape none)),
      ("n#GetBook", .operation (operationShape "n#BookInput")),
      ("n#AddBook", .operation (operationShape "n#BookInput")),
      ("n#BookInput", .struct
        ⟨⟨[("sequel", .bare "n#BookInput"), ("Title", .bare "smithy.api#String")], by decide⟩,
          SortedMap.empty⟩)], by decide⟩
    metadata := SortedMap.empty }

def ping : Operation :=
  ⟨"Ping", "lib.Ping", "ping", none, .object []⟩

def onBooks (name methodName : String) : Operation :=
  ⟨name, "lib." ++ name, methodName, none, .object [("Title", .string "Title")]⟩

def book (operations : List Operation) : Resource :=
  ⟨"lib.Shelf.Book", "Book", [], operations⟩

def catalog : Catalog where
  services := [{
    nodeId := "lib"
    name := "Library"
    shortName := "lib"
    className := none
    resources := [⟨"lib.Shelf", "Shelf", [book [ping], book [], book [ping]],
      [onBooks "AddBook" "addBook", onBooks "GetBook" "getBook"]⟩]
    operations := [ping] }]

theorem service_model : model.services = .ok [{
    nodeId := "lib"
    name := "Library"
    shortName := "lib"
    className := none
    resources := sortByName Resource.name [⟨"lib.Shelf", "Shelf",
      sortByName Resource.name [
        ⟨"lib.Shelf.Book", "Book", sortByName Resource.name [], sortByName Operation.name [ping]⟩,
        ⟨"lib.Shelf.Book", "Book", sortByName Resource.name [], sortByName Operation.name []⟩,
        ⟨"lib.Shelf.Book", "Book", sortByName Resource.name [], sortByName Operation.name [ping]⟩],
      sortByName Operation.name [onBooks "GetBook" "getBook", onBooks "AddBook" "addBook"]⟩]
    operations := sortByName Operation.name [ping] }] :=
  rfl

theorem ofModels_model : Catalog.ofModels [model] = .ok catalog := by
  have hbooks : sortByName Resource.name [book [ping], book [], book [ping]]
      = [book [ping], book [], book [ping]] :=
    sortByName_of_ascending (by simp [Ascending, book, ← le_iff, le_refl])
  have hoperations :
      sortByName Operation.name [onBooks "GetBook" "getBook", onBooks "AddBook" "addBook"]
        = [onBooks "AddBook" "addBook", onBooks "GetBook" "getBook"] :=
    sortByName_pair (by decide)
  rw [book, book] at hbooks
  refine Catalog.ofModels_eq_ok.mpr ⟨_, .cons service_model .nil, ?_⟩
  rw [hoperations]
  simp only [sortByName_nil, sortByName_singleton, hbooks, List.flatten_cons, List.flatten_nil,
    List.append_nil]
  rfl

end Library

end ShapeCatalog
