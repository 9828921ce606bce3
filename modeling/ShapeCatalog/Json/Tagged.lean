import ShapeCatalog.Json.Record

/-!
Tagged records in JSON texts.  One field holds a tag that decides which record the others make up;
it may stand anywhere in an object, and stands first in an array.  The whole record is read through
before its fields are told apart, but the tag is judged as soon as it is met.
-/

namespace ShapeCatalog.Json

/-- What stands beside the tag, without faults of its own. -/
inductive Payload where
  | entries (entries : List (Option String × Tree))
  | items (items : List Tree)

/-- Read a record from what stands beside the tag. -/
def Record.ofPayload {τ : Type} (record : Record τ) (room : Nat) :
    Payload → Except ReadError τ
  | .entries entries => record.fields.ofEntries room entries true
  | .items items => record.ofItems room items true

/-- A choice between records: its name, its tags, and the field that holds the tag. -/
structure Choice (κ : Type) where
  name : String
  field : String
  tags : List (String × κ)

namespace Choice

variable {κ : Type}

def readTag (choice : Choice κ) : Tree → Except ReadError κ
  | .string (some tag) =>
      match choice.tags.lookup tag with
      | some kind => .ok kind
      | none => .error (.unknownTag tag (choice.tags.map Prod.fst))
  | tree => .error (tree.mismatch .tag)

/-- Take the tag out of the entries of an object, reading through all of them. -/
def splitEntries (choice : Choice κ) (room : Nat) (kind? : Option κ) :
    List (Option String × Tree) → Except ReadError (Option κ × List (Option String × Tree))
  | [] => .ok (kind?, [])
  | (none, _) :: _ => .error .malformed
  | (some key, tree) :: rest =>
      if key = choice.field then
        if kind?.isSome then .error (.duplicateField key)
        else (choice.readTag tree).bind fun kind => choice.splitEntries room (some kind) rest
      else if (tree.toValue? room).isNone then .error .malformed
      else (choice.splitEntries room kind? rest).map fun (kind?, others) =>
        (kind?, (some key, tree) :: others)

/-- Read a tagged record apart into its tag and what stands beside it. -/
def split (choice : Choice κ) : Reader (κ × Payload) := fun room tree =>
  match tree, room with
  | .object _ _, 0 | .array _ _, 0 => .error .malformed
  | .object entries closed, room + 1 =>
      (choice.splitEntries room none entries).bind fun (kind?, others) =>
        if closed then
          match kind? with
          | some kind => .ok (kind, .entries others)
          | none => .error (.missingField choice.field)
        else .error .malformed
  | .array [] closed, _ + 1 =>
      .error (if closed then .missingField choice.field else .malformed)
  | .array (first :: others) closed, room + 1 =>
      (choice.readTag first).bind fun kind =>
        if closed && (Tree.itemsToValues? room others).isSome then .ok (kind, .items others)
        else .error .malformed
  | tree, _ => .error (tree.mismatch (.tagged choice.name))

end Choice

end ShapeCatalog.Json
