import ShapeCatalog.Proofs.PairedModels

/-!
Ids matter for what they lead to, and for their local names.  A renaming takes ids of the prelude
to ids of the same prelude shapes, keeps all other ids apart and their local names as they are.
A document with its ids renamed has the services that it had before, or stops at the ids that
have been renamed.
-/

namespace ShapeCatalog

namespace OrderedMap

variable {α β : Type}

/-- A map with every value replaced, at the same keys. -/
def mapValues (f : α → β) (map : OrderedMap α) : OrderedMap β where
  entries := map.entries.map fun entry => (entry.1, f entry.2)
  keys_nodup := by
    have hkeys := map.keys_nodup
    rwa [Entries.keys, List.map_map]

end OrderedMap

section

variable (renamed : String → String)

def ShapeRef.rename (ref : ShapeRef) : ShapeRef :=
  { ref with target := renamed ref.target }

def ServiceShape.rename (shape : ServiceShape) : ServiceShape :=
  { shape with
    operations := shape.operations.map (ShapeRef.rename renamed)
    resources := shape.resources.map (ShapeRef.rename renamed)
    errors := shape.errors.map (ShapeRef.rename renamed) }

def ResourceShape.rename (shape : ResourceShape) : ResourceShape where
  identifiers := shape.identifiers.mapValues (ShapeRef.rename renamed)
  create := shape.create.map (ShapeRef.rename renamed)
  put := shape.put.map (ShapeRef.rename renamed)
  read := shape.read.map (ShapeRef.rename renamed)
  update := shape.update.map (ShapeRef.rename renamed)
  delete := shape.delete.map (ShapeRef.rename renamed)
  list := shape.list.map (ShapeRef.rename renamed)
  operations := shape.operations.map (ShapeRef.rename renamed)
  collectionOperations := shape.collectionOperations.map (ShapeRef.rename renamed)
  resources := shape.resources.map (ShapeRef.rename renamed)
  traits := shape.traits

def OperationShape.rename (shape : OperationShape) : OperationShape where
  input := shape.input.map (ShapeRef.rename renamed)
  output := shape.output.map (ShapeRef.rename renamed)
  errors := shape.errors.map (ShapeRef.rename renamed)
  traits := shape.traits

def MembersShape.rename (shape : MembersShape) : MembersShape :=
  { shape with members := shape.members.mapValues (ShapeRef.rename renamed) }

def ListShape.rename (shape : ListShape) : ListShape :=
  { shape with member := shape.member.rename renamed }

def MapShape.rename (shape : MapShape) : MapShape :=
  { shape with key := shape.key.rename renamed, value := shape.value.rename renamed }

def Shape.rename : Shape → Shape
  | .service shape => .service (shape.rename renamed)
  | .resource shape => .resource (shape.rename renamed)
  | .operation shape => .operation (shape.rename renamed)
  | .struct shape => .struct (shape.rename renamed)
  | .list shape => .list (shape.rename renamed)
  | .set shape => .set (shape.rename renamed)
  | .map shape => .map (shape.rename renamed)
  | .union shape => .union (shape.rename renamed)
  | .enum shape => .enum (shape.rename renamed)
  | .intEnum shape => .intEnum (shape.rename renamed)
  | .simple kind traits => .simple kind traits

/-- A document with its ids renamed, where shapes stand and where they are referred to. -/
def Document.rename (document : Document) : Document :=
  { document with
    shapes := .ofList (document.shapes.entries.map fun entry =>
      (renamed entry.1, entry.2.rename renamed)) }

def CatalogError.rename : CatalogError → CatalogError
  | .shapeNotFound id => .shapeNotFound (renamed id)
  | .typeMismatch id expected actual => .typeMismatch (renamed id) expected actual
  | .notAValue id kind => .notAValue (renamed id) kind
  | .unsupportedInput operation id kind => .unsupportedInput (renamed operation) (renamed id) kind
  | .noExample kind id => .noExample kind (renamed id)
  | .endlessKey id => .endlessKey (renamed id)
  | .endlessResource id => .endlessResource (renamed id)
  | error => error

end

def Shape.refs : Shape → List ShapeRef
  | .service shape => shape.operations ++ shape.resources ++ shape.errors
  | .resource shape => shape.identifiers.entries.map Prod.snd ++ shape.delete.toList
      ++ shape.resources ++ shape.operationRefs
  | .operation shape => shape.input.toList ++ shape.output.toList ++ shape.errors
  | .struct shape | .union shape | .enum shape | .intEnum shape =>
      shape.members.entries.map Prod.snd
  | .list shape | .set shape => [shape.member]
  | .map shape => [shape.key, shape.value]
  | .simple _ _ => []

/-- The ids that occur in a document: those of its shapes, and those that its shapes refer to. -/
def Document.ids (document : Document) : List String :=
  Entries.keys document.shapes.entries
    ++ document.shapes.entries.flatMap fun entry => entry.2.refs.map ShapeRef.target

/-- An id that occurs in a document, and what it becomes. -/
def Document.Becomes (document : Document) (renamed : String → String) (id id' : String) : Prop :=
  id ∈ document.ids ∧ id' = renamed id

/-- A renaming of the ids in a document.  Ids of the prelude stay ids of the same prelude shapes;
other ids do not become ids of the prelude, keep their local names, and stay apart. -/
structure Document.Renaming (document : Document) (renamed : String → String) : Prop where
  shape?_eq : ∀ id ∈ document.ids, Prelude.shape? (renamed id) = Prelude.shape? id
  localName_eq : ∀ id ∈ document.ids, Prelude.shape? id = none →
    localName (renamed id) = localName id
  injective : ∀ id ∈ document.ids, ∀ next ∈ document.ids, Prelude.shape? id = none →
    Prelude.shape? next = none → renamed next = renamed id → next = id

section

variable {same : String → String → Prop} {renamed : String → String}

theorem ShapeRef.forall₂_matches_rename {refs : List ShapeRef}
    (h : ∀ ref ∈ refs, same ref.target (renamed ref.target)) :
    List.Forall₂ (ShapeRef.Matches same) refs (refs.map (ShapeRef.rename renamed)) := by
  rw [List.forall₂_map_right_iff, List.forall₂_same]
  exact h

theorem ResourceShape.operationRefs_rename (shape : ResourceShape) :
    (shape.rename renamed).operationRefs
      = shape.operationRefs.map (ShapeRef.rename renamed) := by
  rw [operationRefs, operationRefs, List.map_append, List.map_append, List.map_filterMap]
  rfl

theorem Example.declaredValue?_rename (shape : MembersShape) :
    declaredValue? (shape.rename renamed) = declaredValue? shape := by
  rw [declaredValue?, declaredValue?, OrderedMap.first?, OrderedMap.first?, MembersShape.rename,
    OrderedMap.mapValues, List.head?_map]
  cases shape.members.entries.head? <;> rfl

/-- A shape matches itself with its references renamed, if their targets stand for
what they become. -/
theorem Shape.matches_rename {shape : Shape}
    (h : ∀ ref ∈ shape.refs, same ref.target (renamed ref.target)) :
    shape.Matches same (shape.rename renamed) := by
  cases shape with
  | service shape => exact .service _ _
  | resource shape =>
      rw [refs, List.forall_mem_append, List.forall_mem_append] at h
      refine .resource ⟨ShapeRef.forall₂_matches_rename h.1.2, ?_⟩
      rw [ResourceShape.operationRefs_rename]
      exact ShapeRef.forall₂_matches_rename h.2
  | operation shape =>
      rw [refs, List.forall_mem_append, List.forall_mem_append] at h
      refine .operation ⟨?_, rfl⟩
      show Option.Rel _ shape.input (shape.input.map _)
      cases hinput : shape.input with
      | none => exact .none
      | some ref => exact .some (h.1.1 ref (by rw [hinput]; exact List.mem_cons_self))
  | struct shape =>
      rw [refs, List.forall_mem_map] at h
      apply Matches.struct
      show List.Forall₂ _ _ (shape.members.entries.map _)
      rw [List.forall₂_map_right_iff, List.forall₂_same]
      exact fun entry hentry => ⟨rfl, h entry hentry⟩
  | union shape =>
      rw [refs, List.forall_mem_map] at h
      apply Matches.union
      show Option.Rel _ shape.members.entries.head? (List.head? (List.map _ _))
      rw [List.head?_map]
      cases hfirst : shape.members.entries.head? with
      | none => exact .none
      | some entry => exact .some (h entry (List.mem_of_mem_head? hfirst))
  | list shape => exact .list (h _ List.mem_cons_self)
  | set shape => exact .set (h _ List.mem_cons_self)
  | map shape =>
      exact .map (h _ List.mem_cons_self) (h _ (List.mem_cons_of_mem _ List.mem_cons_self))
  | enum shape => exact .enum (Example.declaredValue?_rename shape)
  | intEnum shape => exact .intEnum (Example.declaredValue?_rename shape)
  | simple kind traits => exact .simple kind traits traits

theorem CatalogError.Matches.eq_rename {error error' : CatalogError}
    (hsame : ∀ id id', same id id' → id' = renamed id) (h : error.Matches same error') :
    error' = error.rename renamed := by
  cases h with
  | unsupportedInput kind hoperation hid =>
      rw [CatalogError.rename, hsame _ _ hoperation, hsame _ _ hid]
  | _ => rename_i hid; rw [CatalogError.rename, hsame _ _ hid]

theorem eq_mapError_of_alike {α : Type} {outcome outcome' : Except CatalogError α}
    (hsame : ∀ id id', same id id' → id' = renamed id) (h : Alike same Eq outcome outcome') :
    outcome' = outcome.mapError (CatalogError.rename renamed) := by
  cases h with
  | ok hvalue => rw [hvalue]; rfl
  | error hfault => rw [hfault.eq_rename hsame]; rfl

end

/-- Looking up a renamed key, where no other key has been renamed to the same. -/
theorem Entries.lookup_map {α β : Type} {renamed : String → String} {f : α → β} {key : String}
    {entries : Entries α} (h : ∀ other ∈ keys entries, renamed other = renamed key → other = key) :
    (entries.map fun entry => (renamed entry.1, f entry.2)).lookup (renamed key)
      = (entries.lookup key).map f := by
  induction entries with
  | nil => rfl
  | cons entry rest ih =>
      obtain ⟨first, value⟩ := entry
      rw [keys, List.map_cons, List.forall_mem_cons] at h
      rw [List.map_cons]
      by_cases hkey : key = first
      · subst hkey
        simp
      · have hne : renamed key ≠ renamed first := fun heq => hkey (h.1 heq.symm).symm
        rw [lookup_cons_of_ne hne, lookup_cons_of_ne hkey]
        exact ih h.2

namespace Document

variable {document : Document} {id : String}

theorem mem_ids_of_mem_keys (hid : id ∈ Entries.keys document.shapes.entries) : id ∈ document.ids :=
  List.mem_append_left _ hid

theorem mem_ids_of_mem_refs {shape : Shape} {ref : ShapeRef}
    (hmem : (id, shape) ∈ document.shapes.entries) (href : ref ∈ shape.refs) :
    ref.target ∈ document.ids := by
  apply List.mem_append_right
  exact List.mem_flatMap.mpr ⟨(id, shape), hmem, List.mem_map_of_mem href⟩

theorem mem_ids_of_lookup {shape : Shape} {ref : ShapeRef}
    (hshape : document.lookup? id = some shape) (href : ref ∈ shape.refs) :
    ref.target ∈ document.ids := by
  rcases lookup_cases hshape with ⟨kind, -, rfl⟩ | ⟨-, hmem⟩
  · cases href
  · exact mem_ids_of_mem_refs hmem href

end Document

namespace Document.Renaming

variable {document : Document} {renamed : String → String} (h : document.Renaming renamed)
  (hown : ∀ id ∈ Entries.keys document.shapes.entries, Prelude.shape? id = none)

include h hown

theorem entries_rename : (document.rename renamed).shapes.entries
    = document.shapes.entries.map fun entry => (renamed entry.1, entry.2.rename renamed) := by
  apply Entries.ofList_of_nodup
  have hnodup : ((Entries.keys document.shapes.entries).map renamed).Nodup := by
    apply List.Nodup.map_on _ document.shapes.keys_nodup
    intro next hnext id hid heq
    exact h.injective id (mem_ids_of_mem_keys hid) next (mem_ids_of_mem_keys hnext) (hown id hid)
      (hown next hnext) heq
  rw [Entries.keys, List.map_map] at hnodup ⊢
  exact hnodup

theorem size_rename : (document.rename renamed).shapes.size = document.shapes.size := by
  rw [OrderedMap.size, h.entries_rename hown, List.length_map, OrderedMap.size]

theorem lookup?_rename {id : String} (hid : id ∈ document.ids) :
    (document.rename renamed).lookup? (renamed id)
      = (document.lookup? id).map (Shape.rename renamed) := by
  rw [Document.lookup?, Document.lookup?, h.shape?_eq id hid]
  cases hshape : Prelude.shape? id with
  | some shape =>
      obtain ⟨kind, -, rfl⟩ := Option.map_eq_some_iff.mp hshape
      rfl
  | none =>
      show (document.rename renamed).shapes.entries.lookup (renamed id)
        = (document.shapes.entries.lookup id).map _
      rw [h.entries_rename hown]
      apply Entries.lookup_map
      intro other hother heq
      exact h.injective id hid other (mem_ids_of_mem_keys hother) hshape (hown other hother) heq

/-- Ids of the document stand for what they become. -/
theorem corresponds : document.Corresponds (document.Becomes renamed)
    (document.rename renamed) where
  lookup? := by
    rintro id _ ⟨hid, rfl⟩
    rw [h.lookup?_rename hown hid]
    cases hfound : document.lookup? id with
    | none => exact .none
    | some shape =>
        apply Option.Rel.some
        apply Shape.matches_rename
        exact fun ref href => ⟨mem_ids_of_lookup hfound href, rfl⟩
  localName_eq := by
    rintro id _ ⟨hid, rfl⟩ hkind
    exact h.localName_eq id hid (Prelude.shape?_eq_none.mpr hkind)
  eq_iff := by
    rintro id _ next _ ⟨hid, rfl⟩ hkind ⟨hnext, rfl⟩
    have hnone := Prelude.shape?_eq_none.mpr hkind
    constructor
    · rintro rfl
      rfl
    · intro heq
      have hshape : Prelude.shape? next = none := by
        rw [← h.shape?_eq next hnext, heq, h.shape?_eq id hid, hnone]
      exact h.injective id hid next hnext hnone hshape heq

end Document.Renaming

namespace Model

variable {document : Document} {renamed : String → String} (h : document.Renaming renamed)
  (hown : ∀ id ∈ Entries.keys document.shapes.entries, Prelude.shape? id = none)

include h hown

/-- A model and the model with its ids renamed have room for as many frames, so that the same is
requested of ids that stand for one another. -/
theorem corresponds_rename (shortName : String) :
    (Model.mk shortName document).Corresponds (document.Becomes renamed)
      (Model.mk shortName (document.rename renamed)) where
  shortName_eq := rfl
  document := h.corresponds hown
  requestTemplate := by
    intro id id' name hid
    have hframes : Example.maxFrames (document.rename renamed) = Example.maxFrames document := by
      rw [Example.maxFrames, Example.maxFrames, h.size_rename hown]
    rw [requestTemplate, requestTemplate, Document.exemplify, Document.exemplify, hframes]
    exact (Example.mirrors_exemplifyWithin (h.corresponds hown) _ name hid
      Example.activeMatch_nil).alike

/-- The service shapes of a document with its ids renamed are those of the document, renamed. -/
theorem serviceShapes_rename (shortName : String) :
    (Model.mk shortName (document.rename renamed)).serviceShapes
      = (Model.mk shortName document).serviceShapes.map fun entry =>
          (renamed entry.1, entry.2.rename renamed) := by
  rw [serviceShapes, serviceShapes, h.entries_rename hown, List.filterMap_map, List.map_filterMap]
  congr 1
  funext entry
  obtain ⟨id, shape⟩ := entry
  cases shape <;> rfl

theorem service_rename (shortName : String) {id : String} {shape : ServiceShape}
    (hmem : (id, Shape.service shape) ∈ document.shapes.entries) :
    Alike (document.Becomes renamed) Eq ((Model.mk shortName document).service id shape)
      ((Model.mk shortName (document.rename renamed)).service (renamed id)
        (shape.rename renamed)) := by
  have hmodel := corresponds_rename h hown shortName
  have hkey : id ∈ Entries.keys document.shapes.entries := List.mem_map_of_mem hmem
  have hrefs : ∀ ref ∈ (Shape.service shape).refs,
      document.Becomes renamed ref.target (renamed ref.target) :=
    fun ref href => ⟨Document.mem_ids_of_mem_refs hmem href, rfl⟩
  rw [Shape.refs, List.forall_mem_append, List.forall_mem_append] at hrefs
  apply hmodel.service
  · rw [ServiceShape.displayName, ServiceShape.displayName,
      h.localName_eq id (Document.mem_ids_of_mem_keys hkey) (hown id hkey)]
    rfl
  · rfl
  · have hlevels : (Model.mk shortName (document.rename renamed)).maxLevels
        = (Model.mk shortName document).maxLevels := by
      rw [maxLevels, maxLevels, h.size_rename hown]
    rw [hlevels]
    exact (ShapeRef.forall₂_matches_rename hrefs.1.2).imp fun _ _ href => hmodel.resource _ href
  · exact ShapeRef.forall₂_matches_rename hrefs.1.1

end Model

/-- Where a document has no shape at an id of the prelude, its services depend on ids through what
they lead to and through local names only: renamed, it has the same services, or the same error at
the renamed ids. -/
theorem Model.services_rename (shortName : String) (document : Document)
    (renamed : String → String)
    (hown : ∀ id ∈ Entries.keys document.shapes.entries, Prelude.shape? id = none)
    (h : document.Renaming renamed) :
    (Model.mk shortName (document.rename renamed)).services
      = (Model.mk shortName document).services.mapError (CatalogError.rename renamed) := by
  have halike : Alike (document.Becomes renamed) Eq (Model.mk shortName document).services
      (Model.mk shortName (document.rename renamed)).services := by
    rw [services, services, serviceShapes_rename h hown]
    apply alike_mapM
    rw [List.forall₂_map_right_iff, List.forall₂_same]
    intro entry hentry
    exact service_rename h hown shortName (mem_serviceShapes.mp hentry)
  exact eq_mapError_of_alike (fun _ _ hid => hid.2) halike

namespace Library

/-- The ids of the library under another namespace, and the string of the prelude in
other letters. -/
def relocated (id : String) : String :=
  if id = "smithy.api#String" then "Smithy.API#STRING" else "p." ++ id

theorem renaming_relocated : model.document.Renaming relocated where
  shape?_eq := by
    have hkind : ∀ id ∈ model.document.ids, Prelude.kind? (relocated id) = Prelude.kind? id := by
      decide
    intro id hid
    rw [Prelude.shape?, Prelude.shape?, hkind id hid]
  localName_eq := by
    simp only [Prelude.shape?_eq_none]
    decide
  injective := by
    intro id _ next _ hid hnext heq
    have hmoved : ∀ {id}, Prelude.shape? id = none → relocated id = "p." ++ id := by
      intro id hnone
      apply if_neg
      rintro rfl
      cases hnone
    rw [hmoved hid, hmoved hnext] at heq
    exact (String.append_right_inj "p.").mp heq

/-- The library has the same services under its new ids. -/
theorem services_relocated :
    (∀ id ∈ Entries.keys model.document.shapes.entries, Prelude.shape? id = none) ∧
      model.document.Renaming relocated ∧
      ((Model.mk "lib" (model.document.rename relocated)).services = model.services ∧
        ∃ services, model.services = .ok services) := by
  have hown : ∀ id ∈ Entries.keys model.document.shapes.entries, Prelude.shape? id = none := by
    simp only [Prelude.shape?_eq_none]
    decide
  have hservices := Model.services_rename "lib" model.document relocated hown renaming_relocated
  refine ⟨hown, renaming_relocated, hservices.trans ?_, ⟨_, service_model⟩⟩
  show model.services.mapError _ = model.services
  rw [service_model]
  rfl

end Library

end ShapeCatalog
