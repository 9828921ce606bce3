import ShapeCatalog.Catalog.Basic
import ShapeCatalog.Error
import ShapeCatalog.Json.Record

/-!
Reading catalogs from JSON texts.
-/

namespace ShapeCatalog

open Json (Reader Record)

namespace Operation

def record :
    Record (String × String × String × Option String × Json.Value × Unit) where
  name := "Operation"
  Draft := _
  fields :=
    .cons (.required "name" Reader.text)
    (.cons (.required "operationId" Reader.text)
    (.cons (.required "methodName" Reader.text)
    (.cons (.optional "description" Reader.text)
    (.cons (.required "requestTemplate" Reader.value) .nil))))
  surplus := .malformed

def reader : Reader Operation := fun room tree =>
  (record.reader room tree).map
    fun (name, operationId, methodName, description, requestTemplate, _) =>
      ⟨name, operationId, methodName, description, requestTemplate⟩

end Operation

namespace Resource

def record (child : Reader Resource) :
    Record (String × String × List Resource × List Operation × Unit) where
  name := "Resource"
  Draft := _
  fields :=
    .cons (.required "nodeId" Reader.text)
    (.cons (.required "name" Reader.text)
    (.cons (.required "resources" (Reader.list child))
    (.cons (.required "operations" (Reader.list Operation.reader)) .nil)))
  surplus := .malformed

/-- Read a resource with at most the given number of generations below it. -/
def readerTo : Nat → Reader Resource
  | 0 => fun _ _ => .error .malformed
  | generations + 1 => fun room tree =>
      ((record (readerTo generations)).reader room tree).map
        fun (nodeId, name, resources, operations, _) => ⟨nodeId, name, resources, operations⟩

/-- Read a resource.  Every generation opens containers, so that there cannot be more of them than
containers. -/
def reader : Reader Resource :=
  readerTo Json.maxOpen

end Resource

namespace Service

def record :
    Record (String × String × String × Option String × List Resource × List Operation × Unit) where
  name := "Service"
  Draft := _
  fields :=
    .cons (.required "nodeId" Reader.text)
    (.cons (.required "name" Reader.text)
    (.cons (.required "shortName" Reader.text)
    (.cons (.optional "className" Reader.text)
    (.cons (.required "resources" (Reader.list Resource.reader))
    (.cons (.required "operations" (Reader.list Operation.reader)) .nil)))))
  surplus := .malformed

def reader : Reader Service := fun room tree =>
  (record.reader room tree).map
    fun (nodeId, name, shortName, className, resources, operations, _) =>
      ⟨nodeId, name, shortName, className, resources, operations⟩

end Service

namespace Catalog

def record : Record (List Service × Unit) where
  name := "Catalog"
  Draft := _
  fields := .cons (.required "services" (Reader.list Service.reader)) .nil
  surplus := .malformed

def reader : Reader Catalog := fun room tree =>
  (record.reader room tree).map fun (services, _) => ⟨services⟩

def ofText (text : String) : Except CatalogError Catalog :=
  (Reader.ofText reader text).mapError .malformedCatalog

end Catalog

end ShapeCatalog
