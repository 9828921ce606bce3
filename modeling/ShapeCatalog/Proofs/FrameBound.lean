import ShapeCatalog.Proofs.PairedExamples
import ShapeCatalog.Proofs.ValueReferences

/-!
How many shapes are open at once.  Frames that open one another are no more than `n * n + 1` in a
document of `n` shapes whose maps do not lead back to themselves through keys alone, whatever else
leads back to what.  What a frame gives is settled by the frames that it opens, so that this many
frames are enough for every example to be made or to fail, and more of them change nothing.
-/

namespace ShapeCatalog

namespace Document

theorem corresponds_self (document : Document) : document.Corresponds Eq document where
  lookup? := by
    rintro id _ rfl
    cases document.lookup? id with
    | none => exact .none
    | some shape => exact .some (Shape.matches_self fun _ _ => rfl)
  localName_eq := by
    rintro id _ rfl _
    rfl
  eq_iff := by
    rintro id _ next _ rfl _ rfl
    rfl

end Document

namespace Example

variable {document : Document}

theorem activeMatch_eq (active : ActiveIds) : ActiveMatch Eq active active := by
  rintro id _ rfl
  rfl

/-- What a frame gives with at most so many frames open at once, itself included. -/
def Frame.outcome (document : Document) (frames : Nat) (frame : Frame) :
    Except CatalogError Json.Value :=
  ((document.exemplifyWithin frames frame.id frame.name).run frame.active).1

/-- What the frames that a frame opens give settles what it gives itself. -/
theorem outcome_succ_congr {frames frames' : Nat} {frame : Frame}
    (h : ∀ next, Opens document frame next →
      next.outcome document frames = next.outcome document frames') :
    frame.outcome document (frames + 1) = frame.outcome document (frames' + 1) := by
  obtain ⟨active, id, name⟩ := frame
  have hsame := document.corresponds_self
  have hrun : Mirrors Eq Eq active active (document.exemplifyWithin (frames + 1) id name)
      (document.exemplifyWithin (frames' + 1) id name) := by
    apply mirrors_bind (mirrors_lift (hsame.resolveValue rfl))
    intro shape shape' hshape hshape' hmatches
    apply mirrors_ofShape_succ hsame rfl hshape hmatches (activeMatch_eq active)
    rintro next _ label target target' hopens rfl htarget htarget' hnext
    obtain rfl := Document.eq_of_resolveValue htarget htarget'
    have houtcome : ((ofShape document frames next target label).run (held id active)).1
        = ((ofShape document frames' next target label).run (held id active)).1 := by
      have heq := h ⟨held id active, next, label⟩ hopens
      rwa [Frame.outcome, Frame.outcome, Document.exemplifyWithin, Document.exemplifyWithin,
        htarget] at heq
    -- What the two runs leave active is the same, however many frames they have.
    have hmirrors : ∀ frames, Mirrors Eq Eq (held id active) (held id active)
        (ofShape document frames next target label) (ofShape document frames next target label) :=
      fun frames => mirrors_ofShape hsame frames label rfl htarget hnext (activeMatch_eq _)
    apply mirrors_of_yields (hmirrors frames).restores (hmirrors frames').restores
    rw [← houtcome]
    exact (hmirrors frames).alike
  exact eq_of_alike (fun _ _ heq => heq) hrun.alike

/-- Frames that are as many as a frame can open settle what it gives. -/
theorem outcome_eq (hkeys : document.KeysAcyclic) {frames frames' : Nat} {frame : Frame}
    (hframes : frame.bound document ≤ frames) (hframes' : frame.bound document ≤ frames') :
    frame.outcome document frames = frame.outcome document frames' := by
  induction frames generalizing frames' frame with
  | zero =>
      have hpos := frame.bound_pos document
      omega
  | succ frames ih =>
      have hpos := frame.bound_pos document
      obtain ⟨frames', rfl⟩ : ∃ fewer, frames' = fewer + 1 := ⟨frames' - 1, by omega⟩
      apply outcome_succ_congr
      intro next hopens
      have hlt := hopens.bound_lt hkeys
      exact ih (by omega) (by omega)

end Example

/-- The faults of references: they lead nowhere, or to a shape that describes no value. -/
def CatalogError.IsReferenceFault (error : CatalogError) : Prop :=
  error.group = .shapeNotFound ∨ error.group = .notAValue

namespace Document

variable {document : Document}

/-- An example fails for its references only, and never for want of a frame. -/
theorem failsOnly_exampleBelow {hkeys : document.KeysAcyclic} (path : Finset String)
    (id name : String) :
    FailsOnly (document.exampleBelow hkeys path id name) CatalogError.IsReferenceFault := by
  refine (faultFrom_of_exampleBelow path id name).imp ?_
  rintro error ⟨culprit, -, herror⟩
  rcases resolveValue_eq_error herror with ⟨-, rfl⟩ | ⟨shape, -, -, rfl⟩
  · exact Or.inl rfl
  · exact Or.inr rfl

/-- Where no map leads back to itself through keys alone, the shapes that an example opens one
within the other are never more than the square of the number of shapes, and one more: so long is
every chain of frames, any greater limit gives the same example or the same error and leaves nothing
active, and no example runs out of frames. -/
theorem frames_bounded (document : Document) (hkeys : document.KeysAcyclic) (id name : String) :
    (∀ frames, List.IsChain (Example.Opens document) (⟨[], id, name⟩ :: frames) →
      frames.length + 1 ≤ document.shapes.size * document.shapes.size + 1) ∧
    (∀ limit, document.shapes.size * document.shapes.size + 1 ≤ limit →
      (document.exemplifyWithin limit id name).run [] = (document.exemplify id name).run [] ∧
        ((document.exemplify id name).run []).2 = []) ∧
    ∀ map, ((document.exemplify id name).run []).1 ≠ .error (.endlessKey map) := by
  have hyields := yields_exemplify hkeys [] id name
  have hbound : (⟨[], id, name⟩ : Example.Frame).bound document ≤ Example.maxFrames document :=
    document.frameBound_le_maxFrames _ id
  refine ⟨?_, ?_, ?_⟩
  · intro frames hchain
    exact Nat.le_trans (Example.length_le_bound hkeys hchain) hbound
  · intro limit hlimit
    have hstate := congrArg Prod.snd hyields
    have hmirrors := Example.mirrors_exemplifyWithin document.corresponds_self limit name
      (rfl : id = id) (Example.activeMatch_eq [])
    have houtcome := Example.outcome_eq hkeys (Nat.le_trans hbound hlimit) hbound
    refine ⟨?_, hstate⟩
    rw [hmirrors.restores]
    exact Prod.ext houtcome hstate.symm
  · intro map hendless
    rw [hyields] at hendless
    rcases failsOnly_exampleBelow _ id name _ hendless with hgroup | hgroup <;> cases hgroup

end Document

namespace Example.Reentry

/-- The page is entered again for the keys of its index, and three shapes are open then. -/
theorem frames_bounded_page :
    document.KeysAcyclic ∧
      (∀ frames, List.IsChain (Opens document) (⟨[], "a#Page", "root"⟩ :: frames) →
        frames.length + 1 ≤ 5) ∧
      (∀ limit, 5 ≤ limit → (document.exemplifyWithin limit "a#Page" "root").run []
        = (.ok (.object [("index", .object [("\x7b\"title\":\"title\"\x7d", number)]),
            ("title", .string "title")]), [])) := by
  obtain ⟨hchain, hlimit, -⟩ := document.frames_bounded keysAcyclic_document "a#Page" "root"
  refine ⟨keysAcyclic_document, hchain, ?_⟩
  intro limit hle
  exact (hlimit limit hle).1

end Example.Reentry

end ShapeCatalog
