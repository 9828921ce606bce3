import ShapeCatalog.Proofs.ActiveIds
import ShapeCatalog.Proofs.Extraction
import ShapeCatalog.Proofs.Unfolding

/-!
The first fault decides.  All checks on the way to a catalog stand in one list: service after
service, and at every node the child resources, each with all checks below it, before the
operations.  A catalog is made if every check passes; otherwise the first check that does not
gives the error.
-/

namespace ShapeCatalog

open Json (Value)

/-- A check on the way to a catalog. -/
inductive Check where
  /-- A reference must lead to a resource. -/
  | resource (model : AcyclicModel) (ref : ShapeRef)
  /-- A reference must lead to an operation whose input can be exemplified. -/
  | operation (model : AcyclicModel) (ref : ShapeRef)

namespace Check

end Check

mutual

/-- The checks of an unfolded reference to a resource: its own, those of its child resources, and
those of its operations. -/
def RefTree.checks (model : AcyclicModel) : RefTree → List Check
  | .node ref children operations =>
      .resource model ref :: (RefTree.checksIn model children
        ++ operations.map (.operation model))

def RefTree.checksIn (model : AcyclicModel) : List RefTree → List Check
  | [] => []
  | tree :: rest => tree.checks model ++ RefTree.checksIn model rest

end

def ServiceEntry.checks (entry : ServiceEntry) : List Check :=
  RefTree.checksIn entry.model entry.trees ++ entry.shape.operations.map (.operation entry.model)

def AcyclicModel.checks (models : List AcyclicModel) : List Check :=
  (AcyclicModel.serviceEntries models).flatMap ServiceEntry.checks

namespace AcyclicModel

variable (model : AcyclicModel)

theorem requestTemplate_eq (inputId name : String) :
    model.requestTemplate inputId name
      = model.document.exampleBelow model.keys_acyclic ∅ inputId name :=
  Document.outcome_exemplify model.keys_acyclic inputId name

end AcyclicModel

namespace ServiceEntry

variable (entry : ServiceEntry)

end ServiceEntry

end ShapeCatalog
