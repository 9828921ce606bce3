import ShapeCatalog.Json.ReadError
import ShapeCatalog.Json.Tree
import ShapeCatalog.Json.Value

/-!
Readers of JSON trees.  A reader is given the number of containers that may still be opened; at most
127 may be open at once.  It reports the first fault in the order of the text.
-/

namespace ShapeCatalog.Json

/-- A way to read a tree, given how many containers may still be opened. -/
abbrev Reader (α : Type) := Nat → Tree → Except ReadError α

/-- The number of containers that may be open at once. -/
def maxOpen : Nat := 127

namespace Tree

/-- The fault of a tree that is not what was wanted.  Scalars are read before they are refused. -/
def mismatch (expected : Expected) : Tree → ReadError
  | .null => .wrongType .null expected
  | .bool value => .wrongType (.bool value) expected
  | .number literal =>
      match Number.ofLiteral? literal with
      | some value => .wrongType (.number value) expected
      | none => .malformed
  | .string (some value) => .wrongType (.string value) expected
  | .string none => .malformed
  | .array _ _ => .wrongType .array expected
  | .object _ _ => .wrongType .object expected
  | .broken => .malformed

mutual

/-- Whether the text of a tree keeps to the grammar throughout. -/
def isComplete : Tree → Bool
  | .array items closed => itemsComplete items && closed
  | .object entries closed => entriesComplete entries && closed
  | .broken => false
  | _ => true

def itemsComplete : List Tree → Bool
  | [] => true
  | item :: rest => item.isComplete && itemsComplete rest

def entriesComplete : List (Option String × Tree) → Bool
  | [] => true
  | (_, value) :: rest => value.isComplete && entriesComplete rest

end

mutual

/-- The value that a tree spells, if it is complete, each number and string of it has a value, and
it opens no more containers than it may. -/
def toValue? (room : Nat) : Tree → Option Value
  | .null => some .null
  | .bool value => some (.bool value)
  | .number literal => (Number.ofLiteral? literal).map .number
  | .string text => text.map .string
  | .array items closed =>
      if room = 0 ∨ closed = false then none
      else (itemsToValues? (room - 1) items).map .array
  | .object entries closed =>
      if room = 0 ∨ closed = false then none
      else (entriesToValues? (room - 1) entries).map fun entries =>
        .object (Entries.ofList entries)
  | .broken => none

def itemsToValues? (room : Nat) : List Tree → Option (List Value)
  | [] => some []
  | item :: rest =>
      (item.toValue? room).bind fun value =>
        (itemsToValues? room rest).map (value :: ·)

def entriesToValues? (room : Nat) :
    List (Option String × Tree) → Option (List (String × Value))
  | [] => some []
  | (key?, tree) :: rest =>
      key?.bind fun key =>
        (tree.toValue? room).bind fun value =>
          (entriesToValues? room rest).map ((key, value) :: ·)

end

end Tree

namespace Reader

def value : Reader Value := fun room tree =>
  match tree.toValue? room with
  | some value => .ok value
  | none => .error .malformed

def text : Reader String := fun _ tree =>
  match tree with
  | .string (some text) => .ok text
  | tree => .error (tree.mismatch .text)

/-- Read `null` as nothing, and everything else with the given reader. -/
def optional {α : Type} (reader : Reader α) : Reader (Option α) := fun room tree =>
  match tree with
  | .null => .ok none
  | tree => (reader room tree).map some

/-- Read an array whose items the given reader reads. -/
def list {α : Type} (reader : Reader α) : Reader (List α) := fun room tree =>
  match tree with
  | .array items closed =>
      match room with
      | 0 => .error .malformed
      | room + 1 => do
          let found ← items.mapM (reader room)
          if closed then return found else throw .malformed
  | tree => .error (tree.mismatch .list)

def entry {α : Type} (reader : Reader α) (room : Nat) :
    Option String × Tree → Except ReadError (String × α)
  | (none, _) => .error .malformed
  | (some key, tree) => (reader room tree).map fun found => (key, found)

/-- Read an object whose values the given reader reads, with all its entries in order. -/
def entries {α : Type} (reader : Reader α) : Reader (Entries α) := fun room tree =>
  match tree with
  | .object entries closed =>
      match room with
      | 0 => .error .malformed
      | room + 1 => do
          let found ← entries.mapM (entry reader room)
          if closed then return found else throw .malformed
  | tree => .error (tree.mismatch .map)

def orderedMap {α : Type} (reader : Reader α) : Reader (OrderedMap α) := fun room tree =>
  (entries reader room tree).map OrderedMap.ofList

def sortedMap {α : Type} (reader : Reader α) : Reader (SortedMap α) := fun room tree =>
  (entries reader room tree).map SortedMap.ofList

/-- Read a whole text, after which nothing but spacing may follow. -/
def ofText {α : Type} (reader : Reader α) (text : String) : Except ReadError α := do
  let (tree, ended) := Tree.ofText text
  let found ← reader maxOpen tree
  if ended then return found else throw .malformed

end Reader

end ShapeCatalog.Json
