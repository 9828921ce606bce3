import ShapeCatalog.Json.Reader

/-!
Records in JSON texts.  A record declares its fields in order.  It is written as an object, in which
the fields may stand in any order among fields that the record does not know, or as an array of its
fields in the declared order, in which fields at the end may be absent if they have a default.
-/

namespace ShapeCatalog.Json

/-- A field of a record: its name, how its value is read, and what stands for it when it is
absent. -/
structure FieldSpec (α : Type) where
  name : String
  read : Reader α
  default? : Option α

namespace FieldSpec

def required {α : Type} (name : String) (read : Reader α) : FieldSpec α :=
  ⟨name, read, none⟩

def defaulted {α : Type} (name : String) (read : Reader α) (default : α) : FieldSpec α :=
  ⟨name, read, some default⟩

/-- A field that may be absent or `null`. -/
def optional {α : Type} (name : String) (read : Reader α) : FieldSpec (Option α) :=
  ⟨name, Reader.optional read, some none⟩

end FieldSpec

/-- The declared fields of a record, in order.  The first index is the type of what has been read of
them so far, the second the type of their values: a pair of the first value and the others. -/
inductive Fields : Type → Type → Type 1 where
  | nil : Fields Unit Unit
  | cons {α δ τ : Type} (first : FieldSpec α) (rest : Fields δ τ) : Fields (Option α × δ) (α × τ)

/-- What to do with the items of an array beyond the last field of a record: nothing may follow
where a text is read as it comes, and the items are counted where the array is known already. -/
inductive Surplus where
  | malformed
  | counted
deriving Repr, DecidableEq

namespace Fields

def size {δ τ : Type} : Fields δ τ → Nat
  | .nil => 0
  | .cons _ rest => rest.size + 1

/-- The draft in which nothing has been read. -/
def blank {δ τ : Type} : Fields δ τ → δ
  | .nil => ()
  | .cons _ rest => (none, rest.blank)

/-- Read one entry of an object into the draft.  A known field may be given once; the value of an
unknown one only has to keep to the grammar. -/
def readEntry {δ τ : Type} (room : Nat) (key : String) (tree : Tree) :
    Fields δ τ → δ → Except ReadError δ
  | .nil, () => if tree.isComplete then .ok () else .error .malformed
  | .cons first rest, (slot, others) =>
      if key = first.name then
        if slot.isSome then .error (.duplicateField key)
        else (first.read room tree).map fun value => (some value, others)
      else (rest.readEntry room key tree others).map fun others => (slot, others)

def readEntries {δ τ : Type} (fields : Fields δ τ) (room : Nat) :
    δ → List (Option String × Tree) → Except ReadError δ
  | draft, [] => .ok draft
  | _, (none, _) :: _ => .error .malformed
  | draft, (some key, tree) :: rest =>
      (fields.readEntry room key tree draft).bind fun draft => fields.readEntries room draft rest

/-- Take the values from the draft, and the defaults where it has none.  The first field with
neither is missing. -/
def complete {δ τ : Type} : Fields δ τ → δ → Except ReadError τ
  | .nil, () => .ok ()
  | .cons first rest, (slot, others) =>
      match slot <|> first.default? with
      | none => .error (.missingField first.name)
      | some value => (rest.complete others).map fun values => (value, values)

/-- Read a record that is written as an object. -/
def ofEntries {δ τ : Type} (fields : Fields δ τ) (room : Nat)
    (entries : List (Option String × Tree)) (closed : Bool) : Except ReadError τ :=
  (fields.readEntries room fields.blank entries).bind fun draft =>
    if closed then fields.complete draft else .error .malformed

/-- Read fields from the items of an array, `before` places after its start. -/
def readItems {δ τ : Type} (room : Nat) (closed : Bool) (tooFew tooMany : Nat → ReadError)
    (before : Nat) : Fields δ τ → List Tree → Except ReadError τ
  | .nil, [] => if closed then .ok () else .error .malformed
  | .nil, surplus => .error (tooMany (before + surplus.length))
  | .cons first rest, item :: others =>
      (first.read room item).bind fun value =>
        (rest.readItems room closed tooFew tooMany (before + 1) others).map fun values =>
          (value, values)
  | .cons first rest, [] =>
      if closed then
        match first.default? with
        | none => .error (tooFew before)
        | some value =>
            (rest.readItems room closed tooFew tooMany (before + 1) []).map fun values =>
              (value, values)
      else .error .malformed

end Fields

/-- A record with values of type `τ`: its name, its fields, and what becomes of surplus items. -/
structure Record (τ : Type) where
  name : String
  Draft : Type
  fields : Fields Draft τ
  surplus : Surplus

namespace Record

def ofItems {τ : Type} (record : Record τ) (room : Nat) (items : List Tree) (closed : Bool) :
    Except ReadError τ :=
  let count := record.fields.size
  let tooMany := match record.surplus with
    | .malformed => fun _ => .malformed
    | .counted => fun items => .tooManyItems items count
  record.fields.readItems room closed (.tooFewItems · record.name count) tooMany 0 items

def reader {τ : Type} (record : Record τ) : Reader τ := fun room tree =>
  match tree, room with
  | .object _ _, 0 | .array _ _, 0 => .error .malformed
  | .object entries closed, room + 1 => record.fields.ofEntries room entries closed
  | .array items closed, room + 1 => record.ofItems room items closed
  | tree, _ => .error (tree.mismatch (.record record.name))

end Record

end ShapeCatalog.Json
