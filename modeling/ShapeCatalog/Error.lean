import ShapeCatalog.Json.ReadError
import ShapeCatalog.Shape.Basic

/-!
What can go wrong between a set of model files and their catalog, and the words for it.
-/

namespace ShapeCatalog

/-- Why a file cannot be read or written. -/
inductive FileFault where
  | notFound
  | alreadyExists
  | notADirectory
  | isADirectory
  | nameTooLong
  /-- The path has a character in it with which paths end for the system. -/
  | nulInPath
  | notUtf8
  | other (text : String)
deriving Repr, DecidableEq

def FileFault.describe : FileFault → String
  | .notFound => "No such file or directory (os error 2)"
  | .alreadyExists => "File exists (os error 17)"
  | .notADirectory => "Not a directory (os error 20)"
  | .isADirectory => "Is a directory (os error 21)"
  | .nameTooLong => "File name too long (os error 36)"
  | .nulInPath => "file name contained an unexpected NUL byte"
  | .notUtf8 => "stream did not contain valid UTF-8"
  | .other text => text

/-- Why there is no catalog. -/
inductive CatalogError where
  | shapeNotFound (id : String)
  | typeMismatch (id : String) (expected actual : Kind)
  | notAValue (id : String) (kind : Kind)
  | unsupportedInput (operation id : String) (kind : Kind)
  /-- An example was asked of a shape that describes no value. -/
  | noExample (kind : Kind) (id : String)
  /-- The keys of a map lead back to the map. -/
  | endlessKey (id : String)
  /-- A resource is among its own descendants. -/
  | endlessResource (id : String)
  | notADirectory (root : String)
  | unreadableDirectory (path : String) (fault : FileFault)
  | invalidFileName (path : String)
  | unreadableFile (path : String) (fault : FileFault)
  | malformedFile (path : String) (error : Json.ReadError)
  | malformedModel (error : Json.ReadError)
  | malformedCatalog (error : Json.ReadError)
deriving DecidableEq

inductive ErrorGroup where
  | shapeNotFound
  | typeMismatch
  | notAValue
  | unsupportedInputShape
  | internalInvariant
  | io
  | parse
  | json
deriving Repr, DecidableEq

namespace CatalogError

def group : CatalogError → ErrorGroup
  | .shapeNotFound _ => .shapeNotFound
  | .typeMismatch _ _ _ => .typeMismatch
  | .notAValue _ _ => .notAValue
  | .unsupportedInput _ _ _ => .unsupportedInputShape
  | .noExample _ _ | .endlessKey _ | .endlessResource _ => .internalInvariant
  | .unreadableDirectory _ _ => .io
  | .notADirectory _ | .invalidFileName _ | .unreadableFile _ _ | .malformedFile _ _
  | .malformedModel _ => .parse
  | .malformedCatalog _ => .json

def unreadable (path : String) (fault : FileFault) : String :=
  s!"IO error for operation on {path}: {fault.describe}"

def message : CatalogError → String
  | .shapeNotFound id => s!"Shape not found: {id}"
  | .typeMismatch id expected actual =>
      s!"Type mismatch for {id}: expected {expected.tag}, found {actual.tag}"
  | .notAValue id kind => s!"Shape {id} of type {kind.tag} cannot be used as a value"
  | .unsupportedInput operation id kind =>
      s!"Operation {operation} has unsupported input {id} of type {kind.tag}"
  | .noExample kind id =>
      s!"Internal invariant violated: cannot synthesize an example for {kind.tag} shape {id}"
  | .endlessKey id => s!"Internal invariant violated: the keys of map {id} lead back to it"
  | .endlessResource id =>
      s!"Internal invariant violated: resource {id} is among its own descendants"
  | .notADirectory root => s!"Parse error: Not a directory: {root}"
  | .unreadableDirectory path fault => s!"IO error: {unreadable path fault}"
  | .invalidFileName path => s!"Parse error: Invalid Smithy file name: {path}"
  | .unreadableFile path fault =>
      s!"Parse error: Failed to read Smithy file {path}: {fault.describe}"
  | .malformedFile path error =>
      s!"Parse error: Failed to parse Smithy JSON {path}: {error.message}"
  | .malformedModel error => s!"Parse error: Failed to parse Smithy JSON: {error.message}"
  | .malformedCatalog error => s!"JSON error: {error.message}"

/-- An error in its own words, and then in the words of what lies behind it, down to
the last cause. -/
def causes : CatalogError → List String
  | .unreadableDirectory path fault =>
      [message (.unreadableDirectory path fault), unreadable path fault, fault.describe]
  | error => [error.message]

end CatalogError

end ShapeCatalog
