import ShapeCatalog.Json.Tagged
import ShapeCatalog.Shape.Basic

/-!
Reading shapes and documents from JSON texts.
-/

namespace ShapeCatalog

open Json (FieldSpec Reader Record)

def Traits.reader : Reader Traits :=
  Reader.sortedMap Reader.value

/-- The field that holds the annotations of a record. -/
def Traits.field : FieldSpec Traits :=
  FieldSpec.defaulted "traits" Traits.reader SortedMap.empty

namespace ShapeRef

def record : Record (String × Traits × Unit) where
  name := "ShapeRef"
  Draft := _
  fields := .cons (.required "target" Reader.text) (.cons Traits.field .nil)
  surplus := .counted

def reader : Reader ShapeRef := fun room tree =>
  (record.reader room tree).map fun (target, traits, _) => ⟨target, traits⟩

/-- A field that holds a list of references. -/
def listField (name : String) : FieldSpec (List ShapeRef) :=
  .defaulted name (Reader.list reader) []

/-- A field that holds references by name. -/
def mapField (name : String) : FieldSpec (OrderedMap ShapeRef) :=
  .defaulted name (Reader.orderedMap reader) OrderedMap.empty

end ShapeRef

def ServiceShape.record :
    Record (Option String × List ShapeRef × List ShapeRef × List ShapeRef × Traits × Unit) where
  name := "ServiceShape"
  Draft := _
  fields :=
    .cons (.optional "version" Reader.text)
    (.cons (ShapeRef.listField "operations")
    (.cons (ShapeRef.listField "resources")
    (.cons (ShapeRef.listField "errors")
    (.cons Traits.field .nil))))
  surplus := .counted

def ResourceShape.record :
    Record (OrderedMap ShapeRef × Option ShapeRef × Option ShapeRef × Option ShapeRef
      × Option ShapeRef × Option ShapeRef × Option ShapeRef × List ShapeRef × List ShapeRef
      × List ShapeRef × Traits × Unit) where
  name := "ResourceShape"
  Draft := _
  fields :=
    .cons (ShapeRef.mapField "identifiers")
    (.cons (.optional "create" ShapeRef.reader)
    (.cons (.optional "put" ShapeRef.reader)
    (.cons (.optional "read" ShapeRef.reader)
    (.cons (.optional "update" ShapeRef.reader)
    (.cons (.optional "delete" ShapeRef.reader)
    (.cons (.optional "list" ShapeRef.reader)
    (.cons (ShapeRef.listField "operations")
    (.cons (ShapeRef.listField "collectionOperations")
    (.cons (ShapeRef.listField "resources")
    (.cons Traits.field .nil))))))))))
  surplus := .counted

def OperationShape.record :
    Record (Option ShapeRef × Option ShapeRef × List ShapeRef × Traits × Unit) where
  name := "OperationShape"
  Draft := _
  fields :=
    .cons (.optional "input" ShapeRef.reader)
    (.cons (.optional "output" ShapeRef.reader)
    (.cons (ShapeRef.listField "errors")
    (.cons Traits.field .nil)))
  surplus := .counted

/-- The fields of a structure, a union or an enumeration, under the name of its record. -/
def MembersShape.record (name : String) : Record (OrderedMap ShapeRef × Traits × Unit) where
  name := name
  Draft := _
  fields := .cons (ShapeRef.mapField "members") (.cons Traits.field .nil)
  surplus := .counted

def ListShape.record : Record (ShapeRef × Traits × Unit) where
  name := "ListShape"
  Draft := _
  fields := .cons (.required "member" ShapeRef.reader) (.cons Traits.field .nil)
  surplus := .counted

def MapShape.record : Record (ShapeRef × ShapeRef × Traits × Unit) where
  name := "MapShape"
  Draft := _
  fields :=
    .cons (.required "key" ShapeRef.reader)
    (.cons (.required "value" ShapeRef.reader)
    (.cons Traits.field .nil))
  surplus := .counted

def SimpleKind.record : Record (Traits × Unit) where
  name := "SimpleShape"
  Draft := _
  fields := .cons Traits.field .nil
  surplus := .counted

namespace Shape

/-- Shapes are told apart by the tag in their field `type`. -/
def choice : Json.Choice Kind where
  name := "Shape"
  field := "type"
  tags := Kind.all.map fun kind => (kind.tag, kind)

/-- Every kind is found by its tag, so that no two kinds share one. -/
theorem lookup_tag (kind : Kind) : choice.tags.lookup kind.tag = some kind := by
  cases kind with
  | simple inner => cases inner <;> decide
  | _ => decide

def ofMembersPayload (name : String) (room : Nat) (payload : Json.Payload) :
    Except Json.ReadError MembersShape :=
  ((MembersShape.record name).ofPayload room payload).map fun (members, traits, _) =>
    ⟨members, traits⟩

def ofListPayload (room : Nat) (payload : Json.Payload) : Except Json.ReadError ListShape :=
  (ListShape.record.ofPayload room payload).map fun (member, traits, _) => ⟨member, traits⟩

/-- Read the fields of a shape whose kind is known. -/
def ofPayload (room : Nat) (payload : Json.Payload) : Kind → Except Json.ReadError Shape
  | .service =>
      (ServiceShape.record.ofPayload room payload).map
        fun (version, operations, resources, errors, traits, _) =>
          .service ⟨version, operations, resources, errors, traits⟩
  | .resource =>
      (ResourceShape.record.ofPayload room payload).map
        fun (identifiers, create, put, read, update, delete, listing, operations,
            collectionOperations, resources, traits, _) =>
          .resource ⟨identifiers, create, put, read, update, delete, listing, operations,
            collectionOperations, resources, traits⟩
  | .operation =>
      (OperationShape.record.ofPayload room payload).map fun (input, output, errors, traits, _) =>
        .operation ⟨input, output, errors, traits⟩
  | .struct => (ofMembersPayload "StructureShape" room payload).map .struct
  | .list => (ofListPayload room payload).map .list
  | .set => (ofListPayload room payload).map .set
  | .map =>
      (MapShape.record.ofPayload room payload).map fun (key, value, traits, _) =>
        .map ⟨key, value, traits⟩
  | .union => (ofMembersPayload "StructureShape" room payload).map .union
  | .enum => (ofMembersPayload "EnumShape" room payload).map .enum
  | .intEnum => (ofMembersPayload "EnumShape" room payload).map .intEnum
  | .simple kind =>
      (SimpleKind.record.ofPayload room payload).map fun (traits, _) => .simple kind traits

def reader : Reader Shape := fun room tree =>
  (choice.split room tree).bind fun (kind, payload) => ofPayload (room - 1) payload kind

end Shape

namespace Document

def record : Record (Option String × OrderedMap Shape × SortedMap Json.Value × Unit) where
  name := "SchemaDocument"
  Draft := _
  fields :=
    .cons (.optional "smithy" Reader.text)
    (.cons (.defaulted "shapes" (Reader.orderedMap Shape.reader) OrderedMap.empty)
    (.cons (.defaulted "metadata" (Reader.sortedMap Reader.value) SortedMap.empty) .nil))
  surplus := .malformed

def reader : Reader Document := fun room tree =>
  (record.reader room tree).map fun (smithy, shapes, metadata, _) => ⟨smithy, shapes, metadata⟩

def ofText (text : String) : Except Json.ReadError Document :=
  Reader.ofText reader text

end Document

end ShapeCatalog
