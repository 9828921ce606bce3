import ShapeCatalog.Catalog.Basic
import ShapeCatalog.Collation
import ShapeCatalog.Example
import ShapeCatalog.Shape.Reader
import ShapeCatalog.Unicode.LetterCase

/-!
The catalog of a set of models.  Every service of every document becomes a tree; the children of a
node are sorted by name, and so are the services of all documents together.  The first reference
that cannot be followed stops the whole.
-/

namespace ShapeCatalog

/-- A document under a short name. -/
structure Model where
  shortName : String
  document : Document

/-- The first character of a name in lower case, the rest as it is. -/
def methodName (name : String) : String :=
  match name.toList with
  | [] => ""
  | first :: rest => String.ofList (Unicode.lower first ++ rest)

/-- The operations of a resource: the declared ones, then those of its lifecycle.  The deletion is
not among them. -/
def ResourceShape.operationRefs (shape : ResourceShape) : List ShapeRef :=
  shape.operations ++ shape.collectionOperations
    ++ [shape.create, shape.put, shape.read, shape.update, shape.list].filterMap id

def OperationShape.description? (shape : OperationShape) : Option String :=
  [Trait.documentation, Trait.legacyDocumentation].findSome? fun trait =>
    (shape.traits.get? trait).bind Json.Value.text?

/-- The title of a service, or its local name if it has none. -/
def ServiceShape.displayName (shape : ServiceShape) (id : String) : String :=
  ((shape.traits.get? Trait.title).bind Json.Value.text?).getD (localName id)

/-- The id of a service among client generators. -/
def ServiceShape.clientId? (shape : ServiceShape) : Option String :=
  ((shape.traits.get? Trait.client).bind (·.get? Trait.clientId)).bind Json.Value.text?

def OperationShape.inputId (shape : OperationShape) : String :=
  match shape.input with
  | some ref => ref.target
  | none => Prelude.unitId

/-- Whether a shape may be the input of an operation. -/
def Shape.isInput : Shape → Bool
  | .struct _ | .simple .unit _ => true
  | _ => false

namespace Model

/-- The example of a request, made with no shape active before. -/
def requestTemplate (model : Model) (inputId name : String) : Except CatalogError Json.Value :=
  ((model.document.exemplify inputId name).run []).1

/-- The operation that a reference stands for.  Its input must be a structure or the unit shape. -/
def operation (model : Model) (ref : ShapeRef) : Except CatalogError Operation := do
  let shape ← model.document.resolveOperation ref.target
  let input ← model.document.resolve shape.inputId
  if input.isInput then
    let template ← model.requestTemplate shape.inputId ref.localName
    return {
      name := ref.localName
      operationId := model.shortName ++ "." ++ ref.localName
      methodName := methodName ref.localName
      description := shape.description?
      requestTemplate := template }
  else throw (.unsupportedInput ref.target shape.inputId input.kind)

/-- The operations that a list of references stands for, sorted. -/
def operations (model : Model) (refs : List ShapeRef) : Except CatalogError (List Operation) := do
  let found ← refs.mapM model.operation
  return Collation.sortByName Operation.name found

/-- The resource that a reference stands for, below the node `parentId`, with fewer than `levels`
generations below it. -/
def resource (model : Model) : (levels : Nat) → (parentId : String) → ShapeRef →
    Except CatalogError Resource
  | 0, _, ref => throw (.endlessResource ref.target)
  | levels + 1, parentId, ref => do
      let shape ← model.document.resolveResource ref.target
      let nodeId := parentId ++ "." ++ ref.localName
      let resources ← shape.resources.mapM (resource model levels nodeId)
      let operations ← model.operations shape.operationRefs
      return {
        nodeId := nodeId
        name := ref.localName
        resources := Collation.sortByName Resource.name resources
        operations := operations }

/-- The number of levels that the resources of a document can make up: each level has a resource of
its own, and below the last one there may be a reference that leads nowhere. -/
def maxLevels (model : Model) : Nat :=
  model.document.shapes.size + 1

def service (model : Model) (id : String) (shape : ServiceShape) :
    Except CatalogError Service := do
  let resources ← shape.resources.mapM (model.resource model.maxLevels model.shortName)
  let operations ← model.operations shape.operations
  return {
    nodeId := model.shortName
    name := shape.displayName id
    shortName := model.shortName
    className := shape.clientId?
    resources := Collation.sortByName Resource.name resources
    operations := operations }

/-- The service shapes of a model, in the order of the document. -/
def serviceShapes (model : Model) : List (String × ServiceShape) :=
  model.document.shapes.entries.filterMap fun (id, shape) =>
    match shape with
    | .service service => some (id, service)
    | _ => none

def services (model : Model) : Except CatalogError (List Service) :=
  model.serviceShapes.mapM fun (id, shape) => model.service id shape

def ofText (shortName text : String) : Except CatalogError Model :=
  match Document.ofText text with
  | .ok document => .ok ⟨shortName, document⟩
  | .error error => .error (.malformedModel error)

end Model

/-- The catalog of a list of models. -/
def Catalog.ofModels (models : List Model) : Except CatalogError Catalog := do
  let services ← models.mapM Model.services
  return ⟨Collation.sortByName Service.name services.flatten⟩

end ShapeCatalog
