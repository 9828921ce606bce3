import ShapeCatalog.Catalog.Basic

/-!
Writing catalogs as JSON texts.  Class names and descriptions are left out where there are none.
-/

namespace ShapeCatalog

open Json (Value)

/-- The entry of a text; none if the text is absent. -/
def presentText (key : String) : Option String → List (String × Value)
  | none => []
  | some text => [(key, .string text)]

def Operation.toValue (operation : Operation) : Value :=
  .object <|
    [("name", .string operation.name),
     ("operationId", .string operation.operationId),
     ("methodName", .string operation.methodName)]
    ++ presentText "description" operation.description
    ++ [("requestTemplate", operation.requestTemplate)]

mutual

def Resource.toValue : Resource → Value
  | ⟨nodeId, name, resources, operations⟩ =>
      .object
        [("nodeId", .string nodeId),
         ("name", .string name),
         ("resources", .array (Resource.toValues resources)),
         ("operations", .array (operations.map Operation.toValue))]

def Resource.toValues : List Resource → List Value
  | [] => []
  | resource :: rest => resource.toValue :: Resource.toValues rest

end

def Service.toValue (service : Service) : Value :=
  .object <|
    [("nodeId", .string service.nodeId),
     ("name", .string service.name),
     ("shortName", .string service.shortName)]
    ++ presentText "className" service.className
    ++ [("resources", .array (Resource.toValues service.resources)),
        ("operations", .array (service.operations.map Operation.toValue))]

namespace Catalog

def toValue (catalog : Catalog) : Value :=
  .object [("services", .array (catalog.services.map Service.toValue))]

def write (layout : Json.Layout) (catalog : Catalog) : String :=
  catalog.toValue.write layout

end Catalog

end ShapeCatalog
