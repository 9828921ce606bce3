import ShapeCatalog.Shape.Basic

/-!
Writing shapes and documents as JSON values.  Fields come in their declared order, the tag of a
shape first; what is absent is written as `null`.
-/

namespace ShapeCatalog

open Json (Value)

def Traits.toValue (traits : Traits) : Value :=
  .object traits.entries

/-- The entry that holds annotations; none if there are no annotations. -/
def Traits.toEntries (traits : Traits) : List (String × Value) :=
  if traits.isEmpty then [] else [("traits", traits.toValue)]

namespace ShapeRef

def toValue (ref : ShapeRef) : Value :=
  .object (("target", .string ref.target) :: ref.traits.toEntries)

def listToValue (refs : List ShapeRef) : Value :=
  .array (refs.map toValue)

def mapToValue (refs : OrderedMap ShapeRef) : Value :=
  .object (refs.entries.map fun (name, ref) => (name, ref.toValue))

def optionToValue : Option ShapeRef → Value
  | none => .null
  | some ref => ref.toValue

end ShapeRef

def optionalText : Option String → Value
  | none => .null
  | some text => .string text

def ServiceShape.toEntries (shape : ServiceShape) : List (String × Value) :=
  [("version", optionalText shape.version),
   ("operations", ShapeRef.listToValue shape.operations),
   ("resources", ShapeRef.listToValue shape.resources),
   ("errors", ShapeRef.listToValue shape.errors),
   ("traits", shape.traits.toValue)]

def ResourceShape.toEntries (shape : ResourceShape) : List (String × Value) :=
  [("identifiers", ShapeRef.mapToValue shape.identifiers),
   ("create", ShapeRef.optionToValue shape.create),
   ("put", ShapeRef.optionToValue shape.put),
   ("read", ShapeRef.optionToValue shape.read),
   ("update", ShapeRef.optionToValue shape.update),
   ("delete", ShapeRef.optionToValue shape.delete),
   ("list", ShapeRef.optionToValue shape.list),
   ("operations", ShapeRef.listToValue shape.operations),
   ("collectionOperations", ShapeRef.listToValue shape.collectionOperations),
   ("resources", ShapeRef.listToValue shape.resources),
   ("traits", shape.traits.toValue)]

def OperationShape.toEntries (shape : OperationShape) : List (String × Value) :=
  [("input", ShapeRef.optionToValue shape.input),
   ("output", ShapeRef.optionToValue shape.output),
   ("errors", ShapeRef.listToValue shape.errors),
   ("traits", shape.traits.toValue)]

def MembersShape.toEntries (shape : MembersShape) : List (String × Value) :=
  [("members", ShapeRef.mapToValue shape.members), ("traits", shape.traits.toValue)]

def ListShape.toEntries (shape : ListShape) : List (String × Value) :=
  [("member", shape.member.toValue), ("traits", shape.traits.toValue)]

def MapShape.toEntries (shape : MapShape) : List (String × Value) :=
  [("key", shape.key.toValue), ("value", shape.value.toValue),
   ("traits", shape.traits.toValue)]

namespace Shape

/-- The fields of a shape without its tag. -/
def toEntries : Shape → List (String × Value)
  | .service shape => shape.toEntries
  | .resource shape => shape.toEntries
  | .operation shape => shape.toEntries
  | .struct shape | .union shape | .enum shape | .intEnum shape => shape.toEntries
  | .list shape | .set shape => shape.toEntries
  | .map shape => shape.toEntries
  | .simple _ traits => traits.toEntries

def toValue (shape : Shape) : Value :=
  .object (("type", .string shape.kind.tag) :: shape.toEntries)

end Shape

def Document.toValue (document : Document) : Value :=
  .object
    [("smithy", optionalText document.smithy),
     ("shapes", .object (document.shapes.entries.map fun (id, shape) => (id, shape.toValue))),
     ("metadata", .object document.metadata.entries)]

end ShapeCatalog
