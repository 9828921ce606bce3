import ShapeCatalog.Shape.Basic

/-!
The prelude: simple shapes that every document may refer to without defining them.  Their ids are
written in any case.
-/

namespace ShapeCatalog.Prelude

def namespaceName : String := "smithy.api"

/-- The id of the unit shape, which is the input of an operation that declares none. -/
def unitId : String := "smithy.api#Unit"

/-- The kinds of the prelude shapes by local name, in lower case. -/
def kinds : List (String × SimpleKind) :=
  [("string", .string),
   ("boolean", .boolean), ("primitiveboolean", .boolean),
   ("byte", .byte), ("primitivebyte", .byte),
   ("short", .short), ("primitiveshort", .short),
   ("integer", .integer), ("primitiveinteger", .integer),
   ("long", .long), ("primitivelong", .long),
   ("float", .float), ("primitivefloat", .float),
   ("double", .double), ("primitivedouble", .double),
   ("biginteger", .bigInteger),
   ("bigdecimal", .bigDecimal),
   ("timestamp", .timestamp),
   ("blob", .blob),
   ("document", .document),
   ("unit", .unit)]

/-- Letters of ASCII in lower case, all else as it is. -/
def asciiLower (text : List Char) : String :=
  String.ofList (text.map Char.toLower)

/-- The kind of the prelude shape with an id.  The id is split at its first `#`. -/
def kind? (id : String) : Option SimpleKind :=
  let before := id.toList.takeWhile (· ≠ '#')
  match id.toList.dropWhile (· ≠ '#') with
  | [] => none
  | _ :: name =>
      if asciiLower before = namespaceName then kinds.lookup (asciiLower name) else none

def shape? (id : String) : Option Shape :=
  (kind? id).map fun kind => .simple kind SortedMap.empty

end ShapeCatalog.Prelude
