import Mathlib.Data.List.Chain
import ShapeCatalog.Proofs.ActiveIds

/-!
Shapes that are open at once.  While a shape is being exemplified it may open the shapes that it
refers to; those of its references that are active are not opened, but keys of maps are.  Every
shape that is opened has fewer frames left below it than the one that opens it, so that no more
shapes than the first one has frames are ever open at once.
-/

namespace ShapeCatalog

/-- An example of the shape with an id, under a name, with at most so many shapes open at once. -/
def Document.exemplifyWithin (document : Document) (frames : Nat) (id name : String) :
    Exemplifying Json.Value := do
  let shape ← document.resolveValue id
  Example.ofShape document frames id shape name

namespace Example

/-- What is active while the shape with an id is open. -/
def held (id : String) (active : ActiveIds) : ActiveIds :=
  if id ∈ active then active else id :: active

theorem toFinset_held (id : String) (active : ActiveIds) :
    (held id active).toFinset = insert id active.toFinset := by
  rw [held]
  split
  · next hid => exact (Finset.insert_eq_of_mem (List.mem_toFinset.mpr hid)).symm
  · exact List.toFinset_cons

theorem mem_held {id other : String} {active : ActiveIds} :
    other ∈ held id active ↔ other = id ∨ other ∈ active := by
  rw [← List.mem_toFinset, toFinset_held, Finset.mem_insert, List.mem_toFinset]

/-- A shape that is being exemplified under a name, with what was active before it. -/
structure Frame where
  active : ActiveIds
  id : String
  name : String

def Frame.held (frame : Frame) : ActiveIds :=
  Example.held frame.id frame.active

/-- The frames that a frame may open, one kind for each kind of reference.  Keys are opened although
they are active. -/
inductive Opens (document : Document) (frame : Frame) : Frame → Prop
  | member {shape : MembersShape} {member : String} {ref : ShapeRef}
      (hshape : document.resolveValue frame.id = .ok (.struct shape))
      (hmem : (member, ref) ∈ shape.members.entries) (hnew : ref.target ∉ frame.held) :
      Opens document frame ⟨frame.held, ref.target, member⟩
  | variant {shape : MembersShape} {member : String} {ref : ShapeRef}
      (hshape : document.resolveValue frame.id = .ok (.union shape))
      (hfirst : shape.members.first? = some (member, ref)) (hnew : ref.target ∉ frame.held) :
      Opens document frame ⟨frame.held, ref.target, frame.name⟩
  | element {shape : ListShape} (hshape : document.resolveValue frame.id = .ok (.list shape) ∨
      document.resolveValue frame.id = .ok (.set shape))
      (hnew : shape.member.target ∉ frame.held) :
      Opens document frame ⟨frame.held, shape.member.target, frame.name⟩
  | key {shape : MapShape} (hshape : document.resolveValue frame.id = .ok (.map shape))
      (hnew : shape.value.target ∉ frame.held) :
      Opens document frame ⟨frame.held, shape.key.target, frame.name ++ "Key"⟩
  | value {shape : MapShape} (hshape : document.resolveValue frame.id = .ok (.map shape))
      (hnew : shape.value.target ∉ frame.held) :
      Opens document frame ⟨frame.held, shape.value.target, frame.name ++ "Value"⟩

namespace Opens

variable {document : Document} {frame next : Frame}

theorem active_eq (h : Opens document frame next) : next.active = frame.held := by
  cases h <;> rfl

theorem mem_ownIds (h : Opens document frame next) : frame.id ∈ document.ownIds := by
  cases h with
  | member hshape | variant hshape | key hshape | value hshape =>
      exact Document.mem_ownIds_of_resolveValue hshape (by simp)
  | element hshape =>
      rcases hshape with hshape | hshape <;>
        exact Document.mem_ownIds_of_resolveValue hshape (by simp)

/-- A frame is opened for a shape that is not active, or for a key. -/
theorem not_mem_or_keyStep (h : Opens document frame next) :
    next.id ∉ frame.held ∨ document.KeyStep frame.id next.id := by
  cases h with
  | key hshape => exact Or.inr (Document.keyStep_of_resolveValue hshape)
  | member _ _ hnew | variant _ _ hnew | element _ hnew | value _ hnew => exact Or.inl hnew

end Opens

/-- How many frames there can be at once from a frame on. -/
noncomputable def Frame.bound (document : Document) (frame : Frame) : Nat :=
  document.frameBound frame.active.toFinset frame.id

theorem Opens.bound_lt {document : Document} (hkeys : document.KeysAcyclic) {frame next : Frame}
    (h : Opens document frame next) : next.bound document < frame.bound document := by
  have hpath : next.active.toFinset = insert frame.id frame.active.toFinset := by
    rw [h.active_eq, Frame.held, toFinset_held]
  rw [Frame.bound, Frame.bound, hpath]
  rcases h.not_mem_or_keyStep with hnew | hstep
  · apply Document.frameBound_lt_of_notMem h.mem_ownIds
    rwa [Frame.held, ← List.mem_toFinset, toFinset_held] at hnew
  · exact Document.frameBound_lt_of_keyStep hkeys hstep

theorem Frame.bound_pos (document : Document) (frame : Frame) : 0 < frame.bound document := by
  rw [bound, Document.frameBound]
  omega

/-- Frames each of which is opened by the one before it are no more than the first one's bound. -/
theorem length_le_bound {document : Document} (hkeys : document.KeysAcyclic) {first : Frame}
    {frames : List Frame} (h : List.IsChain (Opens document) (first :: frames)) :
    (first :: frames).length ≤ first.bound document := by
  induction frames generalizing first with
  | nil => exact first.bound_pos document
  | cons next rest ih =>
      obtain ⟨hopens, hrest⟩ := List.isChain_cons_cons.mp h
      have hlength := ih hrest
      have hlt := hopens.bound_lt hkeys
      rw [List.length_cons]
      omega

end Example

end ShapeCatalog
