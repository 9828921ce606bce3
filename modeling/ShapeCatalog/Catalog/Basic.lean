import ShapeCatalog.Json.Value

/-!
Catalogs: services with their trees of resources and operations.  Every node of a tree has an
id that starts with the id of its parent; every operation has an id that starts with the short
name of its service.
-/

namespace ShapeCatalog

/-- An operation with an example of its request. -/
structure Operation where
  name : String
  operationId : String
  methodName : String
  description : Option String
  requestTemplate : Json.Value
deriving DecidableEq

/-- A resource below a service or another resource. -/
structure Resource where
  nodeId : String
  name : String
  resources : List Resource
  operations : List Operation

structure Service where
  nodeId : String
  name : String
  shortName : String
  className : Option String
  resources : List Resource
  operations : List Operation

/-- The services of a set of models. -/
structure Catalog where
  services : List Service

namespace Resource

mutual

def decEq : (a b : Resource) → Decidable (a = b)
  | ⟨id, name, resources, operations⟩, ⟨id', name', resources', operations'⟩ =>
      if h : id = id' ∧ name = name' ∧ operations = operations' then
        match decEqList resources resources' with
        | isTrue hresources => isTrue (by simp [h, hresources])
        | isFalse hresources => isFalse (by simp [hresources])
      else isFalse (by
        intro heq
        injection heq with h1 h2 _ h4
        exact h ⟨h1, h2, h4⟩)

def decEqList : (a b : List Resource) → Decidable (a = b)
  | [], [] => isTrue rfl
  | x :: a, y :: b =>
      match decEq x y, decEqList a b with
      | isTrue h, isTrue h' => isTrue (by rw [h, h'])
      | isFalse h, _ => isFalse (by simp [h])
      | _, isFalse h => isFalse (by simp [h])
  | [], _ :: _ | _ :: _, [] => isFalse (by simp)

end

instance : DecidableEq Resource := decEq

end Resource

deriving instance DecidableEq for Service
deriving instance DecidableEq for Catalog

/-- A node of a catalog: a service or a resource. -/
inductive Node where
  | service (service : Service)
  | resource (resource : Resource)
deriving DecidableEq

namespace Node

def id : Node → String
  | .service root => root.nodeId
  | .resource inner => inner.nodeId

def name : Node → String
  | .service root => root.name
  | .resource inner => inner.name

def resources : Node → List Resource
  | .service root => root.resources
  | .resource inner => inner.resources

def operations : Node → List Operation
  | .service root => root.operations
  | .resource inner => inner.operations

end Node

mutual

/-- A resource and all resources below it, each before its descendants. -/
def Resource.family : Resource → List Resource
  | ⟨nodeId, name, resources, operations⟩ =>
      ⟨nodeId, name, resources, operations⟩ :: Resource.families resources

def Resource.families : List Resource → List Resource
  | [] => []
  | resource :: rest => resource.family ++ Resource.families rest

end

theorem Resource.mem_family {inner resource : Resource} :
    inner ∈ resource.family ↔ inner = resource ∨ inner ∈ Resource.families resource.resources := by
  obtain ⟨nodeId, name, resources, operations⟩ := resource
  rw [Resource.family, List.mem_cons]

theorem Resource.mem_families {inner : Resource} {resources : List Resource} :
    inner ∈ Resource.families resources ↔ ∃ resource ∈ resources, inner ∈ resource.family := by
  induction resources with
  | nil => simp [Resource.families]
  | cons resource rest ih => simp [Resource.families, ih]

namespace Resource

variable {motive : Resource → Prop}

mutual

/-- What holds of a resource whenever it holds of its children holds of every resource. -/
@[elab_as_elim]
theorem inductOn (resource : Resource)
    (step : ∀ resource, (∀ child ∈ resource.resources, motive child) → motive resource) :
    motive resource := by
  obtain ⟨nodeId, name, resources, operations⟩ := resource
  exact step _ (inductOnEach resources step)

theorem inductOnEach (resources : List Resource)
    (step : ∀ resource, (∀ child ∈ resource.resources, motive child) → motive resource) :
    ∀ child ∈ resources, motive child := by
  cases resources with
  | nil => exact fun child hchild => nomatch hchild
  | cons resource rest =>
      exact List.forall_mem_cons.mpr ⟨inductOn resource step, inductOnEach rest step⟩

end

end Resource

mutual

def Resource.resourceCount : Resource → Nat
  | ⟨_, _, resources, _⟩ => Resource.resourceCountIn resources

/-- The number of resources in a list and below its members. -/
def Resource.resourceCountIn : List Resource → Nat
  | [] => 0
  | resource :: rest => 1 + resource.resourceCount + Resource.resourceCountIn rest

end

mutual

def Resource.operationCount : Resource → Nat
  | ⟨_, _, resources, operations⟩ => operations.length + Resource.operationCountIn resources

/-- The number of operations of the resources in a list and of those below them. -/
def Resource.operationCountIn : List Resource → Nat
  | [] => 0
  | resource :: rest => resource.operationCount + Resource.operationCountIn rest

end

namespace Service

/-- All resources of a service, each before its descendants. -/
def allResources (service : Service) : List Resource :=
  Resource.families service.resources

/-- All operations of a service: its own, and then those of its resources. -/
def allOperations (service : Service) : List Operation :=
  service.operations ++ service.allResources.flatMap Resource.operations

/-- All nodes of a service, each before its descendants. -/
def nodes (service : Service) : List Node :=
  .service service :: service.allResources.map .resource

def resourceCount (service : Service) : Nat :=
  Resource.resourceCountIn service.resources

def operationCount (service : Service) : Nat :=
  service.operations.length + Resource.operationCountIn service.resources

end Service

namespace Catalog

def nodes (catalog : Catalog) : List Node :=
  catalog.services.flatMap Service.nodes

def resources (catalog : Catalog) : List Resource :=
  catalog.services.flatMap Service.allResources

def operations (catalog : Catalog) : List Operation :=
  catalog.services.flatMap Service.allOperations

def resourceCount (catalog : Catalog) : Nat :=
  catalog.services.foldr (fun service count => service.resourceCount + count) 0

def operationCount (catalog : Catalog) : Nat :=
  catalog.services.foldr (fun service count => service.operationCount + count) 0

end Catalog

end ShapeCatalog
