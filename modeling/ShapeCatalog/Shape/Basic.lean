import ShapeCatalog.Json.Value

/-!
Shapes of a service model.  A document maps shape ids to shapes; shapes refer to one another by id.
Services, resources and operations make up the tree of a service, all other shapes describe values.
-/

namespace ShapeCatalog

/-- Annotations, keyed by the id of the trait. -/
abbrev Traits := SortedMap Json.Value

inductive SimpleKind where
  | string
  | boolean
  | byte
  | short
  | integer
  | long
  | float
  | double
  | bigInteger
  | bigDecimal
  | timestamp
  | blob
  | document
  | unit
deriving Repr, DecidableEq

inductive Kind where
  | service
  | resource
  | operation
  | struct
  | list
  | set
  | map
  | union
  | enum
  | intEnum
  | simple (kind : SimpleKind)
deriving Repr, DecidableEq

namespace SimpleKind

def tag : SimpleKind → String
  | .string => "string"
  | .boolean => "boolean"
  | .byte => "byte"
  | .short => "short"
  | .integer => "integer"
  | .long => "long"
  | .float => "float"
  | .double => "double"
  | .bigInteger => "bigInteger"
  | .bigDecimal => "bigDecimal"
  | .timestamp => "timestamp"
  | .blob => "blob"
  | .document => "document"
  | .unit => "unit"

def all : List SimpleKind :=
  [.string, .boolean, .byte, .short, .integer, .long, .float, .double, .bigInteger, .bigDecimal,
    .timestamp, .blob, .document, .unit]

end SimpleKind

namespace Kind

/-- The tag of a kind, as written in documents and messages. -/
def tag : Kind → String
  | .service => "service"
  | .resource => "resource"
  | .operation => "operation"
  | .struct => "structure"
  | .list => "list"
  | .set => "set"
  | .map => "map"
  | .union => "union"
  | .enum => "enum"
  | .intEnum => "intEnum"
  | .simple kind => kind.tag

/-- All kinds, in the order in which they are listed to a reader. -/
def all : List Kind :=
  [.service, .resource, .operation, .struct, .list, .set, .map, .union, .enum, .intEnum]
    ++ SimpleKind.all.map .simple

/-- Whether shapes of the kind may stand as members, list elements, map keys and map values. -/
def isValue : Kind → Bool
  | .service | .resource | .operation => false
  | _ => true

end Kind

/-- A reference to a shape, with annotations of its own. -/
structure ShapeRef where
  target : String
  traits : Traits

/-- A service: the root of a tree of resources and operations. -/
structure ServiceShape where
  version : Option String
  operations : List ShapeRef
  resources : List ShapeRef
  errors : List ShapeRef
  traits : Traits

/-- A resource, with its lifecycle operations, its other operations and its child resources. -/
structure ResourceShape where
  identifiers : OrderedMap ShapeRef
  create : Option ShapeRef
  put : Option ShapeRef
  read : Option ShapeRef
  update : Option ShapeRef
  delete : Option ShapeRef
  list : Option ShapeRef
  operations : List ShapeRef
  collectionOperations : List ShapeRef
  resources : List ShapeRef
  traits : Traits

/-- An operation; without an input it takes the unit shape. -/
structure OperationShape where
  input : Option ShapeRef
  output : Option ShapeRef
  errors : List ShapeRef
  traits : Traits

/-- The members of a structure, a union or an enumeration, in declared order. -/
structure MembersShape where
  members : OrderedMap ShapeRef
  traits : Traits

/-- A list or a set of one kind of element. -/
structure ListShape where
  member : ShapeRef
  traits : Traits

structure MapShape where
  key : ShapeRef
  value : ShapeRef
  traits : Traits

inductive Shape where
  | service (shape : ServiceShape)
  | resource (shape : ResourceShape)
  | operation (shape : OperationShape)
  | struct (shape : MembersShape)
  | list (shape : ListShape)
  | set (shape : ListShape)
  | map (shape : MapShape)
  | union (shape : MembersShape)
  | enum (shape : MembersShape)
  | intEnum (shape : MembersShape)
  | simple (kind : SimpleKind) (traits : Traits)

def Shape.kind : Shape → Kind
  | .service _ => .service
  | .resource _ => .resource
  | .operation _ => .operation
  | .struct _ => .struct
  | .list _ => .list
  | .set _ => .set
  | .map _ => .map
  | .union _ => .union
  | .enum _ => .enum
  | .intEnum _ => .intEnum
  | .simple kind _ => .simple kind

/-- A model document: shapes by id, in the order in which they are written. -/
structure Document where
  smithy : Option String
  shapes : OrderedMap Shape
  metadata : SortedMap Json.Value

/-- The part of a list after the last place where an element stands; the whole list if it stands
nowhere. -/
def afterLast (mark : Char) (text : List Char) : List Char :=
  if mark ∈ text then (text.reverse.takeWhile (· ≠ mark)).reverse else text

/-- The local name in a shape id: what follows its last `#`, or the whole id. -/
def localName (id : String) : String :=
  String.ofList (afterLast '#' id.toList)

def ShapeRef.localName (ref : ShapeRef) : String :=
  ShapeCatalog.localName ref.target

namespace Trait

def documentation : String := "smithy.api#documentation"

/-- The older trait that documents a shape. -/
def legacyDocumentation : String := "aws.api#documentation"

def title : String := "smithy.api#title"

/-- The trait that gives the value of an enumeration member. -/
def enumValue : String := "smithy.api#enumValue"

/-- The trait that describes a service to client generators. -/
def client : String := "aws.api#service"

/-- The field of the client trait that holds the client's id. -/
def clientId : String := "sdkId"

end Trait

end ShapeCatalog
