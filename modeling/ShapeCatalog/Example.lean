import ShapeCatalog.Json.Value
import ShapeCatalog.Shape.Resolution

/-!
Example values of shapes.  Leaves are named after the member that they fill.  A shape that is being
exemplified already is not entered again: structures leave it out, and lists, maps and unions of it
stay empty.  Only the keys of maps are exemplified in any case, so a map must not lead back to
itself through keys alone.
-/

namespace ShapeCatalog

open Json (Value)

/-- The ids of the shapes that are being exemplified. -/
abbrev ActiveIds := List String

/-- A computation that knows which shapes are being exemplified, and that may fail.  What is active
after a failure is known too. -/
abbrev Exemplifying := ExceptT CatalogError (StateM ActiveIds)

namespace Example

/-- The number that stands for every number. -/
def number : Value := .number (.integer 123)

/-- The point in time that stands for every timestamp. -/
def timestamp : Value := .string "2000-01-01T00:00:00Z"

def emptyObject : Value := .object []

def isActive (id : String) : Exemplifying Bool := do
  return (← get).contains id

/-- Hold an id active during a computation.  One that was active before stays active after. -/
def holding {α : Type} (id : String) (body : Exemplifying α) : Exemplifying α :=
  ExceptT.mk fun active =>
    if active.contains id then body.run active
    else
      let (outcome, after) := body.run (id :: active)
      (outcome, after.erase id)

theorem run_holding_of_mem {α : Type} {id : String} {body : Exemplifying α} {active : ActiveIds}
    (h : id ∈ active) : (holding id body).run active = body.run active := by
  have hcontains : active.contains id = true := List.contains_iff_mem.mpr h
  exact if_pos hcontains

/-- A computation that leaves the active ids as it finds them still does so while an id is held. -/
theorem run_holding_of_not_mem {α : Type} {id : String} {body : Exemplifying α}
    {active : ActiveIds} (h : id ∉ active) (hbody : (body.run (id :: active)).2 = id :: active) :
    (holding id body).run active = ((body.run (id :: active)).1, active) := by
  have hcontains : ¬active.contains id = true := fun hmem => h (List.contains_iff_mem.mp hmem)
  show (if active.contains id = true then _ else _) = _
  rw [if_neg hcontains]
  show ((body.run (id :: active)).1, (body.run (id :: active)).2.erase id) = _
  rw [hbody, List.erase_cons_head]

/-- Run a computation on every element of a list, and keep what it gives. -/
def collect {α β : Type} (f : α → Exemplifying (Option β)) : List α → Exemplifying (List β)
  | [] => return []
  | first :: rest => do
      let kept? ← f first
      let others ← collect f rest
      return kept?.toList ++ others

/-- The value that the first member of an enumeration declares. -/
def declaredValue? (shape : MembersShape) : Option Value :=
  shape.members.first?.bind fun (_, ref) => ref.traits.get? Trait.enumValue

def ofSimple (name : String) : SimpleKind → Value
  | .string | .document => .string name
  | .boolean => .bool true
  | .byte | .short | .integer | .long | .float | .double | .bigInteger | .bigDecimal => number
  | .timestamp => timestamp
  | .blob => .string (name ++ "Data")
  | .unit => emptyObject

/-- The object key for an example of a key: the text of a string, and the compact JSON text of any
other value. -/
def keyText : Value → String
  | .string text => text
  | value => value.write .compact

/-- An example of a shape, with at most `frames` shapes open at once. -/
def ofShape (document : Document) :
    (frames : Nat) → (id : String) → Shape → (name : String) → Exemplifying Value
  | 0, id, _, _ => throw (.endlessKey id)
  | frames + 1, id, shape, name => holding id <|
      match shape with
      | .struct shape => do
          let entries ← collect (fun (member, ref) => do
            let target ← document.resolveValue ref.target
            if ← isActive ref.target then return none
            let value ← ofShape document frames ref.target target member
            return some (member, value)) shape.members.entries
          return .object entries
      | .union shape =>
          match shape.members.first? with
          | none => return emptyObject
          | some (_, ref) => do
              let target ← document.resolveValue ref.target
              if ← isActive ref.target then return emptyObject
              ofShape document frames ref.target target name
      | .list shape | .set shape => do
          let target ← document.resolveValue shape.member.target
          if ← isActive shape.member.target then return .array []
          let value ← ofShape document frames shape.member.target target name
          return .array [value]
      | .map shape => do
          let keyTarget ← document.resolveValue shape.key.target
          let valueTarget ← document.resolveValue shape.value.target
          if ← isActive shape.value.target then return emptyObject
          let key ← ofShape document frames shape.key.target keyTarget (name ++ "Key")
          let value ← ofShape document frames shape.value.target valueTarget (name ++ "Value")
          return .object [(keyText key, value)]
      | .enum shape => return (declaredValue? shape).getD (.string name)
      | .intEnum shape => return (declaredValue? shape).getD number
      | .simple kind _ => return ofSimple name kind
      | .service _ | .resource _ | .operation _ => throw (.noExample shape.kind id)

/-- The number of shapes that can be open at once.  Between two keys that are entered while active
lie shapes that were not, so that a document of `n` shapes has chains of at most `n` times `n`; the
last shape may be one of the prelude. -/
def maxFrames (document : Document) : Nat :=
  document.shapes.size * document.shapes.size + 1

end Example

/-- An example of the shape with an id, under a name. -/
def Document.exemplify (document : Document) (id name : String) : Exemplifying Value := do
  let shape ← document.resolveValue id
  Example.ofShape document (Example.maxFrames document) id shape name

end ShapeCatalog
