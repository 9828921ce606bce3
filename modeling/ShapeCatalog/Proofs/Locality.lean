import ShapeCatalog.Proofs.PairedModels
import ShapeCatalog.Proofs.Rearrangement

/-!
What the services of a document lead to settles what they become.  The ids that are followed
from the services make up a part of the document.  Every document with the same services that
agrees on these ids has the services of that part, whatever else stands in it, and however
much of it there is.
-/

namespace ShapeCatalog

/-- The ids that the services of a document lead to: the targets of their resources and operations,
and whatever is followed from the shapes at such ids. -/
inductive Document.Reached (document : Document) : String → Prop
  | service {id : String} {shape : ServiceShape} {ref : ShapeRef}
      (hservice : (id, Shape.service shape) ∈ document.shapes.entries)
      (href : ref ∈ shape.resources ∨ ref ∈ shape.operations) : Reached document ref.target
  | next {id next : String} {shape : Shape} (hid : Reached document id)
      (hshape : document.lookup? id = some shape) (hnext : next ∈ shape.uses) :
      Reached document next

/-- Two shapes that differ at most in what is not followed: the identifiers and the deletion of a
resource, the output and the errors of an operation, and the members of a union after its first. -/
inductive Shape.Agrees : Shape → Shape → Prop
  | refl (shape : Shape) : Agrees shape shape
  | resource (shape : ResourceShape) (identifiers : OrderedMap ShapeRef)
      (delete : Option ShapeRef) :
      Agrees (.resource shape)
        (.resource { shape with identifiers := identifiers, delete := delete })
  | operation (shape : OperationShape) (output : Option ShapeRef) (errors : List ShapeRef) :
      Agrees (.operation shape) (.operation { shape with output := output, errors := errors })
  | union (shape : MembersShape) (members : OrderedMap ShapeRef)
      (hfirst : members.first? = shape.members.first?) :
      Agrees (.union shape) (.union { shape with members := members })

/-- A document that agrees with another on all ids that the services of that one lead to. -/
def Document.AgreesWith (document other : Document) : Prop :=
  ∀ id, document.Reached id → Option.Rel Shape.Agrees (document.lookup? id) (other.lookup? id)

/-- An id that the services of a document lead to, and the same id elsewhere. -/
def Document.Retains (document : Document) (id id' : String) : Prop :=
  document.Reached id ∧ id' = id

theorem Shape.Agrees.matches {same : String → String → Prop} {shape shape' : Shape}
    (h : shape.Agrees shape') (huses : ∀ id ∈ shape.uses, same id id) :
    shape.Matches same shape' := by
  have hself := Shape.matches_self huses
  cases h with
  | refl => exact hself
  | resource shape identifiers delete =>
      cases hself with
      | resource hself => exact .resource ⟨hself.resources, hself.operations⟩
  | operation shape output errors =>
      cases hself with
      | operation hself => exact .operation ⟨hself.input, hself.description⟩
  | union shape members hfirst =>
      cases hself with
      | union hself => exact .union (by rwa [hfirst])

namespace Document

variable {document other : Document} {id : String}

open Classical in
/-- The part of a document that its services lead to. -/
noncomputable def reachedPart (document : Document) : Document :=
  { document with
    shapes := {
      entries := document.shapes.entries.filter fun entry =>
        document.Reached entry.1 ∧ Prelude.kind? entry.1 = none
      keys_nodup := document.shapes.keys_nodup.sublist (List.filter_sublist.map Prod.fst) } }

theorem mem_reachedPart {shape : Shape} : (id, shape) ∈ document.reachedPart.shapes.entries ↔
    (id, shape) ∈ document.shapes.entries ∧ document.Reached id ∧ Prelude.kind? id = none := by
  classical
  rw [reachedPart, List.mem_filter, decide_eq_true_iff]

theorem lookup?_of_mem {shape : Shape} (hmem : (id, shape) ∈ document.shapes.entries)
    (hkind : Prelude.kind? id = none) : document.lookup? id = some shape := by
  rw [lookup?, Prelude.shape?_eq_none.mpr hkind]
  exact (Entries.lookup_eq_some_of_nodup document.shapes.keys_nodup).mpr hmem

theorem lookup?_reachedPart (h : document.Reached id) :
    document.reachedPart.lookup? id = document.lookup? id := by
  rw [lookup?, lookup?]
  cases hshape : Prelude.shape? id with
  | some shape => rfl
  | none =>
      have hkind := Prelude.shape?_eq_none.mp hshape
      apply Option.ext
      intro shape
      show document.reachedPart.shapes.entries.lookup id = some shape
        ↔ document.shapes.entries.lookup id = some shape
      rw [Entries.lookup_eq_some_of_nodup document.reachedPart.shapes.keys_nodup,
        Entries.lookup_eq_some_of_nodup document.shapes.keys_nodup, mem_reachedPart]
      exact and_iff_left ⟨h, hkind⟩

/-- The part has no shapes of its own but at ids that the services lead to. -/
theorem reached_of_lookup_reachedPart {shape : Shape}
    (h : document.reachedPart.lookup? id = some shape)
    (hcompound : ∀ kind traits, shape ≠ .simple kind traits) :
    document.Reached id ∧ document.lookup? id = some shape := by
  rcases lookup_cases h with ⟨kind, -, rfl⟩ | ⟨-, hmem⟩
  · exact absurd rfl (hcompound kind _)
  · have hreached := (mem_reachedPart.mp hmem).2.1
    exact ⟨hreached, lookup?_reachedPart hreached ▸ h⟩

theorem keysAcyclic_reachedPart
    (h : Acyclic fun id next => document.Reached id ∧ document.KeyStep id next) :
    document.reachedPart.KeysAcyclic := by
  apply h.mono
  rintro id next ⟨shape, hlookup, hnext⟩
  obtain ⟨hreached, hshape⟩ := reached_of_lookup_reachedPart hlookup (by simp)
  exact ⟨hreached, shape, hshape, hnext⟩

theorem resourcesAcyclic_reachedPart
    (h : Acyclic fun id next => document.Reached id ∧ document.ResourceStep id next) :
    document.reachedPart.ResourcesAcyclic := by
  apply h.mono
  rintro id next ⟨shape, hlookup, hnext⟩
  obtain ⟨hreached, hshape⟩ := reached_of_lookup_reachedPart hlookup (by simp)
  exact ⟨hreached, shape, hshape, hnext⟩

theorem agreesWith_self (document : Document) : document.AgreesWith document := by
  intro id _
  cases document.lookup? id with
  | none => exact .none
  | some shape => exact .some (.refl shape)

/-- What stands at ids of the prelude, or at ids that the services do not lead to, plays no part. -/
theorem agreesWith_of_get? (h : ∀ id, document.Reached id → Prelude.shape? id = none →
    other.shapes.get? id = document.shapes.get? id) : document.AgreesWith other := by
  intro id hid
  have hlookup : other.lookup? id = document.lookup? id := by
    rw [lookup?, lookup?]
    cases hshape : Prelude.shape? id with
    | some shape => rfl
    | none => exact h id hid hshape
  rw [hlookup]
  exact document.agreesWith_self id hid

namespace AgreesWith

variable (h : document.AgreesWith other)

include h

/-- The part of a document that its services lead to stands in every document that
agrees with it. -/
theorem corresponds : document.reachedPart.Corresponds document.Retains other where
  lookup? := by
    rintro _ id ⟨hid, rfl⟩
    have hagrees := h id hid
    rw [lookup?_reachedPart hid]
    generalize hfound : document.lookup? id = found, other.lookup? id = found' at hagrees ⊢
    cases hagrees with
    | none => exact .none
    | some hshape =>
        apply Option.Rel.some
        apply hshape.matches
        exact fun next hnext => ⟨.next hid hfound hnext, rfl⟩
  localName_eq := by
    rintro _ id ⟨-, rfl⟩ _
    rfl
  eq_iff := by
    rintro _ id _ next ⟨-, rfl⟩ _ ⟨-, rfl⟩
    rfl

/-- Every shape of the part has its place among the shapes of the document that agrees. -/
theorem size_le : document.reachedPart.shapes.size ≤ other.shapes.size := by
  have hsubset : Entries.keys document.reachedPart.shapes.entries
      ⊆ Entries.keys other.shapes.entries := by
    intro _ hkey
    obtain ⟨⟨id, shape⟩, hmem, rfl⟩ := List.mem_map.mp hkey
    obtain ⟨hown, hreached, hkind⟩ := mem_reachedPart.mp hmem
    have hagrees := h id hreached
    rw [lookup?_of_mem hown hkind] at hagrees
    generalize hfound : other.lookup? id = found at hagrees
    cases hagrees with
    | @some _ shape' _ =>
        rcases lookup_cases hfound with ⟨kind, hprelude, -⟩ | ⟨-, hother⟩
        · rw [hkind] at hprelude
          cases hprelude
        · exact List.mem_map.mpr ⟨(id, shape'), hother, rfl⟩
  have hlength := (document.reachedPart.shapes.keys_nodup.subperm hsubset).length_le
  rwa [Entries.keys, Entries.keys, List.length_map, List.length_map] at hlength

end AgreesWith

end Document

namespace Model

variable {document other : Document}
  (hkeys : Acyclic fun id next => document.Reached id ∧ document.KeyStep id next)
  (hagrees : document.AgreesWith other)

include hkeys hagrees

/-- What is requested of the part is requested of every document that agrees with it: the frames
that are enough for the part are enough in all of them. -/
theorem corresponds_reachedPart (shortName : String) :
    (Model.mk shortName document.reachedPart).Corresponds document.Retains
      (Model.mk shortName other) where
  shortName_eq := rfl
  document := hagrees.corresponds
  requestTemplate := by
    intro id id' name hid
    have hpart := Document.keysAcyclic_reachedPart hkeys
    have hsize := hagrees.size_le
    -- The other document may have maps that lead back to themselves, so the frames are
    -- counted in the part.
    have hframes : Example.maxFrames document.reachedPart ≤ Example.maxFrames other :=
      Nat.add_le_add_right (Nat.mul_le_mul hsize hsize) 1
    have hbound : (⟨[], id, name⟩ : Example.Frame).bound document.reachedPart
        ≤ Example.maxFrames document.reachedPart := Document.frameBound_le_maxFrames _ _ _
    have houtcome := Example.outcome_eq hpart hbound (Nat.le_trans hbound hframes)
    have hmirrors := Example.mirrors_exemplifyWithin hagrees.corresponds
      (Example.maxFrames other) name hid Example.activeMatch_nil
    show Alike _ Eq (Example.Frame.outcome document.reachedPart _ ⟨[], id, name⟩) _
    rw [houtcome]
    exact hmirrors.alike

variable (hresources : Acyclic fun id next => document.Reached id ∧ document.ResourceStep id next)

include hresources

/-- A service becomes what it becomes in the part alone. -/
theorem service_reachedPart (shortName : String) {id : String} {shape : ServiceShape}
    (hmem : (id, Shape.service shape) ∈ document.shapes.entries) :
    Alike document.Retains Eq ((Model.mk shortName document.reachedPart).service id shape)
      ((Model.mk shortName other).service id shape) := by
  have hmodel := corresponds_reachedPart hkeys hagrees shortName
  have hpart : (Model.mk shortName document.reachedPart).document.ResourcesAcyclic :=
    Document.resourcesAcyclic_reachedPart hresources
  have hlevels : (Model.mk shortName document.reachedPart).maxLevels
      ≤ (Model.mk shortName other).maxLevels := Nat.add_le_add_right hagrees.size_le 1
  apply hmodel.service rfl rfl
  · rw [List.forall₂_same]
    intro ref href
    have hrank : document.reachedPart.rank document.reachedPart.ResourceStep ref.target
        < (Model.mk shortName document.reachedPart).maxLevels :=
      Nat.lt_succ_of_le (Document.rank_le _ _ _)
    rw [resource_levels_eq hpart hrank (Nat.lt_of_lt_of_le hrank hlevels)]
    exact hmodel.resource _ ⟨.service hmem (.inl href), rfl⟩
  · rw [List.forall₂_same]
    exact fun ref href => ⟨.service hmem (.inr href), rfl⟩

/-- The services of every document that agrees, and that has the same service shapes, are
made of the part. -/
theorem services_reachedPart (shortName : String)
    (hservices : (Model.mk shortName other).serviceShapes
      = (Model.mk shortName document).serviceShapes) :
    (Model.mk shortName other).services = (Model.mk shortName document).serviceShapes.mapM
      fun entry => (Model.mk shortName document.reachedPart).service entry.1 entry.2 := by
  have halike : Alike document.Retains Eq ((Model.mk shortName document).serviceShapes.mapM
      fun entry => (Model.mk shortName document.reachedPart).service entry.1 entry.2)
      (Model.mk shortName other).services := by
    rw [services, hservices]
    apply alike_mapM
    rw [List.forall₂_same]
    intro entry hentry
    exact service_reachedPart hkeys hagrees hresources shortName
      (mem_serviceShapes.mp hentry)
  exact (eq_of_alike (fun _ _ hid => hid.2.symm) halike).symm

end Model

/-- Services depend on what they lead to alone.  Let no resource that the services of a document
lead to be among its own descendants, and no map that they lead to lead back to itself through keys
alone.  Another document with the same service shapes has the same services, or the same error, if
it agrees on every id that the services lead to; so it does in particular if it has the same shapes
at those of these ids that are not in the prelude. -/
theorem Model.services_local (shortName : String) (document : Document)
    (hkeys : Acyclic fun id next => document.Reached id ∧ document.KeyStep id next)
    (hresources : Acyclic fun id next => document.Reached id ∧ document.ResourceStep id next) :
    (∀ other : Document, (Model.mk shortName other).serviceShapes
        = (Model.mk shortName document).serviceShapes →
      document.AgreesWith other →
      (Model.mk shortName other).services = (Model.mk shortName document).services) ∧
    ∀ other : Document, (Model.mk shortName other).serviceShapes
        = (Model.mk shortName document).serviceShapes →
      (∀ id, document.Reached id → Prelude.shape? id = none →
        other.shapes.get? id = document.shapes.get? id) →
      (Model.mk shortName other).services = (Model.mk shortName document).services := by
  have hlocal : ∀ other : Document, (Model.mk shortName other).serviceShapes
      = (Model.mk shortName document).serviceShapes → document.AgreesWith other →
      (Model.mk shortName other).services = (Model.mk shortName document).services := by
    intro other hservices hagrees
    rw [Model.services_reachedPart hkeys hagrees hresources shortName hservices,
      Model.services_reachedPart hkeys document.agreesWith_self hresources shortName rfl]
  refine ⟨hlocal, ?_⟩
  intro other hservices hshapes
  apply hlocal other hservices
  exact Document.agreesWith_of_get? hshapes

namespace Library

/-- The document of the library with a shelf that names no operation for deletion, after shapes
that no service leads to: one that the prelude hides, a resource that is its own child, and a map
that is its own key. -/
def enlarged : Document where
  smithy := none
  shapes := ⟨[
    ("smithy.api#String", .list ⟨.bare "n#Ring", SortedMap.empty⟩),
    ("n#Ring", .resource (resourceShape [] ["n#Ring"] none none)),
    ("n#Spiral", .map ⟨.bare "n#Spiral", .bare "n#Spiral", SortedMap.empty⟩)]
    ++ model.document.shapes.entries.map fun entry =>
      if entry.1 = "n#Shelf" then (entry.1, .resource
        (resourceShape ["n#GetBook"] ["n#Book", "m#Book", "n#Book"] "n#AddBook" none))
      else entry, by decide⟩
  metadata := SortedMap.empty

/-- The ids that the service of the library leads to. -/
def reachedIds : List String :=
  ["n#Ping", "n#Shelf", "n#Book", "m#Book", "n#GetBook", "n#AddBook", "n#BookInput",
    "smithy.api#String", "smithy.api#Unit"]

theorem mem_reachedIds {id : String} (h : enlarged.Reached id) : id ∈ reachedIds := by
  induction h with
  | @service id shape ref hservice href =>
      have hrefs : ∀ entry ∈ (Model.mk "lib" enlarged).serviceShapes,
          ∀ ref ∈ entry.2.resources ++ entry.2.operations, ref.target ∈ reachedIds := by decide
      exact hrefs _ (Model.mem_serviceShapes.mpr hservice) ref (List.mem_append.mpr href)
  | @next id next shape _ hshape hnext ih =>
      have huses : ∀ entry ∈ enlarged.shapes.entries, Prelude.kind? entry.1 = none →
          entry.1 ∈ reachedIds → ∀ next ∈ entry.2.uses, next ∈ reachedIds := by decide
      rcases Document.lookup_cases hshape with ⟨kind, -, rfl⟩ | ⟨hkind, hmem⟩
      · cases hnext
      · exact huses _ hmem hkind ih next hnext

theorem agreesWith_model : enlarged.AgreesWith model.document := by
  intro id hid
  have hmem := mem_reachedIds hid
  simp only [reachedIds, List.mem_cons, List.not_mem_nil, or_false] at hmem
  rcases hmem with rfl | rfl | rfl | rfl | rfl | rfl | rfl | rfl | rfl
  case inr.inl => exact .some (.resource _ OrderedMap.empty (some (.bare "n#Gone")))
  all_goals exact .some (.refl _)

theorem keysAcyclic_enlarged :
    Acyclic fun id next => enlarged.Reached id ∧ enlarged.KeyStep id next := by
  have hkind : ∀ entry ∈ enlarged.shapes.entries, entry.1 ∈ reachedIds → entry.2.kind ≠ .map := by
    decide
  apply acyclic_of_rank fun _ => 0
  rintro id next ⟨hid, shape, hlookup, rfl⟩
  rcases Document.lookup_cases hlookup with ⟨kind, -, heq⟩ | ⟨-, hmem⟩
  · cases heq
  · exact absurd rfl (hkind _ hmem (mem_reachedIds hid))

def height (id : String) : Nat :=
  if id = "n#Shelf" then 2 else if id = "n#Book" then 1 else 0

theorem resourcesAcyclic_enlarged :
    Acyclic fun id next => enlarged.Reached id ∧ enlarged.ResourceStep id next := by
  have hdown : ∀ entry ∈ enlarged.shapes.entries, entry.1 ∈ reachedIds →
      entry.2.kind = .resource → ∀ next ∈ entry.2.uses, height next < height entry.1 := by
    decide
  apply acyclic_of_rank height
  rintro id next ⟨hid, shape, hlookup, ref, href, rfl⟩
  rcases Document.lookup_cases hlookup with ⟨kind, -, heq⟩ | ⟨-, hmem⟩
  · cases heq
  · apply hdown _ hmem (mem_reachedIds hid) rfl
    exact List.mem_map_of_mem (List.mem_append_left _ href)

/-- The shapes that the service does not lead to, and the operation for deletion, change nothing. -/
theorem services_enlarged :
    (Acyclic fun id next => enlarged.Reached id ∧ enlarged.KeyStep id next) ∧
      (Acyclic fun id next => enlarged.Reached id ∧ enlarged.ResourceStep id next) ∧
      enlarged.AgreesWith model.document ∧
      ((Model.mk "lib" model.document).services = (Model.mk "lib" enlarged).services ∧
        ∃ services, (Model.mk "lib" enlarged).services = .ok services) := by
  have hlocal := (Model.services_local "lib" enlarged keysAcyclic_enlarged
    resourcesAcyclic_enlarged).1 model.document rfl agreesWith_model
  exact ⟨keysAcyclic_enlarged, resourcesAcyclic_enlarged, agreesWith_model, hlocal, _,
    hlocal.symm.trans service_model⟩

end Library

end ShapeCatalog
