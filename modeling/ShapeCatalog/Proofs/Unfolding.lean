import ShapeCatalog.Catalog.OfModels
import ShapeCatalog.Proofs.References

/-!
Unfolded references.  Where no resource is among its own descendants, a reference to a resource
unfolds to a tree of references: one branch for every entry in a list of child resources, as often
as it is listed.
-/

namespace ShapeCatalog

/-- A model in which no resource is among its own descendants, and no map leads back to itself
through keys alone. -/
structure AcyclicModel extends Model where
  resources_acyclic : document.ResourcesAcyclic
  keys_acyclic : document.KeysAcyclic

/-- Where a resource refers to operations: the declared ones, those of the collection, and those of
the lifecycle that are there.  The deletion is left out. -/
def ResourceShape.operationOrder (shape : ResourceShape) : List ShapeRef :=
  shape.operations ++ shape.collectionOperations ++ shape.create.toList ++ shape.put.toList
    ++ shape.read.toList ++ shape.update.toList ++ shape.list.toList

theorem ResourceShape.operationRefs_eq (shape : ResourceShape) :
    shape.operationRefs = shape.operationOrder := by
  rw [operationRefs, operationOrder]
  cases shape.create <;> cases shape.put <;> cases shape.read <;> cases shape.update <;>
    cases shape.list <;> simp

/-- A reference to a resource with the references below it. -/
inductive RefTree where
  | node (ref : ShapeRef) (children : List RefTree) (operations : List ShapeRef)

namespace RefTree

mutual

/-- The references to resources in a tree, each before those below it. -/
def resourceRefs : RefTree → List ShapeRef
  | .node ref children _ => ref :: resourceRefsIn children

def resourceRefsIn : List RefTree → List ShapeRef
  | [] => []
  | tree :: rest => tree.resourceRefs ++ resourceRefsIn rest

end

mutual

/-- The references to operations in a tree, those below a resource before its own. -/
def operationRefs : RefTree → List ShapeRef
  | .node _ children operations => operationRefsIn children ++ operations

def operationRefsIn : List RefTree → List ShapeRef
  | [] => []
  | tree :: rest => tree.operationRefs ++ operationRefsIn rest

end

theorem resourceRefsIn_eq_flatMap (trees : List RefTree) :
    resourceRefsIn trees = trees.flatMap resourceRefs := by
  induction trees with
  | nil => rfl
  | cons tree rest ih => rw [resourceRefsIn, ih, List.flatMap_cons]

theorem operationRefsIn_eq_flatMap (trees : List RefTree) :
    operationRefsIn trees = trees.flatMap operationRefs := by
  induction trees with
  | nil => rfl
  | cons tree rest ih => rw [operationRefsIn, ih, List.flatMap_cons]

end RefTree

namespace Document

variable {document : Document}

/-- The tree of a reference to a resource.  A reference that leads to no resource has nothing below
it. -/
def unfold (document : Document) (hresources : document.ResourcesAcyclic) (ref : ShapeRef) :
    RefTree :=
  match _hshape : document.lookup? ref.target with
  | some (.resource shape) =>
      .node ref (shape.resources.attach.map fun ⟨child, _hchild⟩ =>
        unfold document hresources child) shape.operationOrder
  | _ => .node ref [] []
termination_by document.rank document.ResourceStep ref.target
decreasing_by
  have hstep : document.ResourceStep ref.target child.target :=
    ⟨shape, _hshape, child, _hchild, rfl⟩
  exact rank_lt_of_step hresources (mem_ownIds_of_resourceStep hstep) hstep

variable {hresources : document.ResourcesAcyclic} {ref : ShapeRef}

theorem unfold_of_resource {shape : ResourceShape}
    (h : document.lookup? ref.target = some (.resource shape)) :
    document.unfold hresources ref =
      .node ref (shape.resources.map (document.unfold hresources)) shape.operationOrder := by
  rw [unfold]
  split
  · next found hfound =>
      obtain rfl := Shape.resource.inj (Option.some.inj (h.symm.trans hfound))
      simp
  · next hnone => exact absurd h (hnone shape)

end Document

def AcyclicModel.unfold (model : AcyclicModel) (ref : ShapeRef) : RefTree :=
  model.document.unfold model.resources_acyclic ref

/-- A service shape of a model, under its id. -/
structure ServiceEntry where
  model : AcyclicModel
  id : String
  shape : ServiceShape

/-- The service shapes of a list of models: model by model, and in the order of each document. -/
def AcyclicModel.serviceEntries (models : List AcyclicModel) : List ServiceEntry :=
  models.flatMap fun model => model.serviceShapes.map fun (id, shape) => ⟨model, id, shape⟩

namespace ServiceEntry

/-- The resources of a service, unfolded. -/
def trees (entry : ServiceEntry) : List RefTree :=
  entry.shape.resources.map entry.model.unfold

/-- Where a service refers to resources, at any depth. -/
def resourceRefs (entry : ServiceEntry) : List ShapeRef :=
  RefTree.resourceRefsIn entry.trees

/-- Where a service refers to operations, at any depth. -/
def operationRefs (entry : ServiceEntry) : List ShapeRef :=
  RefTree.operationRefsIn entry.trees ++ entry.shape.operations

end ServiceEntry

end ShapeCatalog
