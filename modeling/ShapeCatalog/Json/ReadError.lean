import ShapeCatalog.Json.Number
import ShapeCatalog.Text.Visible

/-!
The faults of a JSON text, and the words in which they are reported.
-/

namespace ShapeCatalog.Json

/-- What a text holds in a place. -/
inductive Found where
  | null
  | bool (value : Bool)
  | number (value : Number)
  | string (value : String)
  | array
  | object
deriving DecidableEq

/-- What the reader of a place wants there. -/
inductive Expected where
  | text
  | list
  | map
  | record (name : String)
  | tagged (name : String)
  | tag
deriving Repr, DecidableEq

inductive ReadError where
  /-- The text breaks the grammar of JSON, nests too deeply, or spells a number or a string that has
  no value. -/
  | malformed
  | wrongType (found : Found) (expected : Expected)
  | duplicateField (name : String)
  | missingField (name : String)
  | unknownTag (tag : String) (known : List String)
  /-- A record written as an array ends before a field without a default, whose place is given. -/
  | tooFewItems (place : Nat) (record : String) (fields : Nat)
  /-- A record written as an array goes on after its last field. -/
  | tooManyItems (count : Nat) (fields : Nat)
deriving DecidableEq

namespace Found

def describe : Found → String
  | .null => "null"
  | .bool value => s!"boolean `{value}`"
  | .number (.integer value) =>
      "integer `" ++ String.ofList (Number.integer value).render ++ "`"
  | .number (.double value) =>
      "floating point `" ++ String.ofList (Number.double value).render ++ "`"
  | .string value => "string " ++ Text.visible value
  | .array => "sequence"
  | .object => "map"

end Found

namespace Expected

def describe : Expected → String
  | .text => "a string"
  | .list => "a sequence"
  | .map => "a map"
  | .record name => s!"struct {name}"
  | .tagged name => s!"internally tagged enum {name}"
  | .tag => "variant identifier"

end Expected

namespace ReadError

def elements (count : Nat) : String :=
  if count = 1 then "1 element" else s!"{count} elements"

def message : ReadError → String
  | .malformed => "syntax error"
  | .wrongType found expected => s!"invalid type: {found.describe}, expected {expected.describe}"
  | .duplicateField name => s!"duplicate field `{name}`"
  | .missingField name => s!"missing field `{name}`"
  | .unknownTag tag known =>
      s!"unknown variant `{tag}`, expected one of "
        ++ ", ".intercalate (known.map fun name => s!"`{name}`")
  | .tooFewItems place record fields =>
      s!"invalid length {place}, expected struct {record} with {elements fields}"
  | .tooManyItems count fields =>
      s!"invalid length {count}, expected {elements fields} in sequence"

end ReadError

end ShapeCatalog.Json
