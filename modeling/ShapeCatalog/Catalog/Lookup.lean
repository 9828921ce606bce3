import ShapeCatalog.Catalog.Basic

/-!
Look-up of nodes and operations by id.  A subtree is searched only if its id, followed by a dot,
starts the id that is looked for.
-/

namespace ShapeCatalog

/-- Whether an id lies below an ancestor's: it goes on with a dot after it. -/
def isBelow (ancestor id : String) : Bool :=
  (ancestor.toList ++ ['.']).isPrefixOf id.toList

theorem isBelow_iff {ancestor id : String} :
    isBelow ancestor id = true ↔ ∃ rest : String, id = ancestor ++ "." ++ rest := by
  rw [isBelow, List.isPrefixOf_iff_prefix]
  constructor
  · rintro ⟨rest, hrest⟩
    refine ⟨String.ofList rest, String.toList_injective ?_⟩
    simp [← hrest]
  · rintro ⟨rest, rfl⟩
    exact ⟨rest.toList, by simp⟩

mutual

def Resource.findNode? (id : String) : Resource → Option Resource
  | ⟨nodeId, name, resources, operations⟩ =>
      if nodeId = id then some ⟨nodeId, name, resources, operations⟩
      else if isBelow nodeId id then Resource.findNodeIn? id resources
      else none

def Resource.findNodeIn? (id : String) : List Resource → Option Resource
  | [] => none
  | resource :: rest => (resource.findNode? id).orElse fun _ => Resource.findNodeIn? id rest

end

def Service.findNode? (id : String) (service : Service) : Option Node :=
  if service.nodeId = id then some (.service service)
  else if isBelow service.nodeId id then
    (Resource.findNodeIn? id service.resources).map .resource
  else none

def Operation.find? (id : String) (operations : List Operation) : Option Operation :=
  operations.find? (·.operationId = id)

mutual

/-- The operation with an id in the family of a resource: its own come first. -/
def Resource.findOperation? (id : String) : Resource → Option Operation
  | ⟨_, _, resources, operations⟩ =>
      (Operation.find? id operations).orElse fun _ => Resource.findOperationIn? id resources

def Resource.findOperationIn? (id : String) : List Resource → Option Operation
  | [] => none
  | resource :: rest =>
      (resource.findOperation? id).orElse fun _ => Resource.findOperationIn? id rest

end

def Service.findOperation? (id : String) (service : Service) : Option Operation :=
  (Operation.find? id service.operations).orElse fun _ =>
    Resource.findOperationIn? id service.resources

namespace Catalog

def findNode? (catalog : Catalog) (id : String) : Option Node :=
  catalog.services.findSome? (Service.findNode? id)

/-- The operation with an id.  Only services whose short name the id starts with are searched. -/
def findOperation? (catalog : Catalog) (id : String) : Option Operation :=
  (catalog.services.filter fun service => isBelow service.shortName id).findSome?
    (Service.findOperation? id)

end Catalog

end ShapeCatalog
