import ShapeCatalog.Error
import ShapeCatalog.Shape.Prelude

/-!
Resolution of shape ids.  The prelude comes before the document, so that a document cannot redefine
a prelude shape.
-/

namespace ShapeCatalog

namespace Shape

def requireKind (expected : Kind) (id : String) (shape : Shape) : Except CatalogError Shape :=
  if shape.kind = expected then .ok shape
  else .error (.typeMismatch id expected shape.kind)

/-- Require a shape that may stand as a member, a list element, a map key or a map value. -/
def requireValue (id : String) (shape : Shape) : Except CatalogError Shape :=
  if shape.kind.isValue then .ok shape else .error (.notAValue id shape.kind)

end Shape

namespace Document

/-- The shape that an id stands for, if there is one. -/
def lookup? (document : Document) (id : String) : Option Shape :=
  (Prelude.shape? id).orElse fun _ => document.shapes.get? id

def resolve (document : Document) (id : String) : Except CatalogError Shape :=
  match document.lookup? id with
  | some shape => .ok shape
  | none => .error (.shapeNotFound id)

/-- The shape that an id stands for, which must be one that describes values. -/
def resolveValue (document : Document) (id : String) : Except CatalogError Shape :=
  (document.resolve id).bind (Shape.requireValue id)

def resolveOperation (document : Document) (id : String) : Except CatalogError OperationShape :=
  (document.resolve id).bind fun shape =>
    match shape with
    | .operation operation => .ok operation
    | other => .error (.typeMismatch id .operation other.kind)

def resolveResource (document : Document) (id : String) : Except CatalogError ResourceShape :=
  (document.resolve id).bind fun shape =>
    match shape with
    | .resource resource => .ok resource
    | other => .error (.typeMismatch id .resource other.kind)

end Document

end ShapeCatalog
