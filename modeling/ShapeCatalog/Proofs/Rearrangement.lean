import ShapeCatalog.Proofs.Extraction

/-!
Documents in another order.  Two documents whose shapes stand in another order, and whose
services and resources list their references in another order, resolve every id to the same shape
up to such an order.  Nothing but services and resources has such lists, so that examples and
operations are the same.
-/

namespace ShapeCatalog

open Json (Value)

/-- One list is another in some order, item by item up to a relation. -/
def Rearranges {α β : Type} (relation : α → β → Prop) (items : List α) (others : List β) : Prop :=
  ∃ ordered, ordered.Perm items ∧ List.Forall₂ relation ordered others

namespace Rearranges

variable {α β γ δ : Type} {relation : α → β → Prop} {items : List α} {others : List β}

theorem of_forall₂ (h : List.Forall₂ relation items others) : Rearranges relation items others :=
  ⟨items, .refl items, h⟩

theorem of_perm {items others : List α} (h : others.Perm items) : Rearranges Eq items others :=
  ⟨others, h, List.forall₂_refl others⟩

theorem length_eq (h : Rearranges relation items others) : others.length = items.length := by
  obtain ⟨ordered, hperm, hrelation⟩ := h
  rw [← hrelation.length_eq, hperm.length_eq]

theorem append {items' : List α} {others' : List β} (h : Rearranges relation items others)
    (h' : Rearranges relation items' others') :
    Rearranges relation (items ++ items') (others ++ others') := by
  obtain ⟨ordered, hperm, hrelation⟩ := h
  obtain ⟨ordered', hperm', hrelation'⟩ := h'
  exact ⟨ordered ++ ordered', hperm.append hperm', List.rel_append hrelation hrelation'⟩

theorem flatMap {relation' : γ → δ → Prop} {f : α → List γ} {g : β → List δ}
    (h : Rearranges relation items others)
    (hrelation : ∀ item other, relation item other → Rearranges relation' (f item) (g other)) :
    Rearranges relation' (items.flatMap f) (others.flatMap g) := by
  obtain ⟨ordered, hperm, hordered⟩ := h
  have hflat : Rearranges relation' (ordered.flatMap f) (others.flatMap g) := by
    clear hperm
    induction hordered with
    | nil => exact of_forall₂ .nil
    | cons hfirst _ ih =>
        rw [List.flatMap_cons, List.flatMap_cons]
        exact append (hrelation _ _ hfirst) ih
  obtain ⟨inner, hinner, hothers⟩ := hflat
  exact ⟨inner, hinner.trans (hperm.flatMap_right f), hothers⟩

/-- What has been made of every item of a list can be made, in another order, of another list. -/
theorem exists_forall₂ {made : α → γ → Prop} {made' : β → γ → Prop} {found : List γ}
    (h : Rearranges relation items others) (hfound : List.Forall₂ made items found)
    (hmade : ∀ item other result, result ∈ found → relation item other → made item result →
      made' other result) :
    ∃ found', List.Forall₂ made' others found' ∧ found'.Perm found := by
  obtain ⟨ordered, hperm, hordered⟩ := h
  obtain ⟨found', hfound', hresults⟩ := List.perm_comp_forall₂ hperm hfound
  refine ⟨found', ?_, hresults⟩
  have hmem : ∀ result ∈ found', result ∈ found := fun result => hresults.mem_iff.mp
  clear hperm hresults hfound
  induction hordered generalizing found' with
  | nil =>
      cases hfound'
      exact .nil
  | cons hfirst _ ih =>
      cases hfound' with
      | cons hresult hrest =>
          refine .cons (hmade _ _ _ (hmem _ List.mem_cons_self) hfirst hresult) ?_
          exact ih _ hrest fun result hresult => hmem result (List.mem_cons_of_mem _ hresult)

end Rearranges

/-- Two services that differ at most in the order of their references. -/
structure ServiceShape.Rearranged (shape other : ServiceShape) : Prop where
  version : other.version = shape.version
  operations : other.operations.Perm shape.operations
  resources : other.resources.Perm shape.resources
  errors : other.errors = shape.errors
  traits : other.traits = shape.traits

/-- Two resources that differ at most in the order of their references.  The operations of the
lifecycle have no order. -/
structure ResourceShape.Rearranged (shape other : ResourceShape) : Prop where
  identifiers : other.identifiers = shape.identifiers
  create : other.create = shape.create
  put : other.put = shape.put
  read : other.read = shape.read
  update : other.update = shape.update
  delete : other.delete = shape.delete
  list : other.list = shape.list
  operations : other.operations.Perm shape.operations
  collectionOperations : other.collectionOperations.Perm shape.collectionOperations
  resources : other.resources.Perm shape.resources
  traits : other.traits = shape.traits

/-- Two shapes that differ at most in the order of their references to operations and resources. -/
inductive Shape.Rearranged : Shape → Shape → Prop
  | service {shape other : ServiceShape} (h : shape.Rearranged other) :
      Shape.Rearranged (.service shape) (.service other)
  | resource {shape other : ResourceShape} (h : shape.Rearranged other) :
      Shape.Rearranged (.resource shape) (.resource other)
  | refl (shape : Shape) : Shape.Rearranged shape shape

/-- Two documents that differ at most in the order of their shapes, and in the order of references
in those shapes. -/
structure Document.Rearranged (document other : Document) : Prop where
  smithy : other.smithy = document.smithy
  shapes : Rearranges (fun entry entry' => entry'.1 = entry.1 ∧ entry.2.Rearranged entry'.2)
    document.shapes.entries other.shapes.entries
  metadata : other.metadata = document.metadata

/-- Two models under one short name whose documents differ at most in order. -/
structure Model.Rearranged (model other : Model) : Prop where
  shortName : other.shortName = model.shortName
  document : model.document.Rearranged other.document

namespace Shape.Rearranged

variable {shape other : Shape}

theorem kind_eq (h : shape.Rearranged other) : other.kind = shape.kind := by
  cases h <;> rfl

theorem isInput_eq (h : shape.Rearranged other) : other.isInput = shape.isInput := by
  cases h <;> rfl

/-- Shapes that describe values have no lists that could stand in another order. -/
theorem eq_of_isValue (h : shape.Rearranged other) (hvalue : shape.kind.isValue = true) :
    other = shape := by
  cases h with
  | service h => cases hvalue
  | resource h => cases hvalue
  | refl => rfl

end Shape.Rearranged

namespace ServiceShape.Rearranged

variable {shape other : ServiceShape}

theorem refl (shape : ServiceShape) : shape.Rearranged shape :=
  ⟨rfl, .refl _, .refl _, rfl, rfl⟩

theorem displayName_eq (h : shape.Rearranged other) (id : String) :
    other.displayName id = shape.displayName id := by
  rw [displayName, displayName, h.traits]

theorem clientId?_eq (h : shape.Rearranged other) : other.clientId? = shape.clientId? := by
  rw [clientId?, clientId?, h.traits]

end ServiceShape.Rearranged

namespace ResourceShape.Rearranged

variable {shape other : ResourceShape}

theorem refl (shape : ResourceShape) : shape.Rearranged shape :=
  ⟨rfl, rfl, rfl, rfl, rfl, rfl, rfl, .refl _, .refl _, .refl _, rfl⟩

theorem perm_operationRefs (h : shape.Rearranged other) :
    other.operationRefs.Perm shape.operationRefs := by
  rw [operationRefs, operationRefs, h.create, h.put, h.read, h.update, h.list]
  exact (h.operations.append h.collectionOperations).append_right _

end ResourceShape.Rearranged

namespace Entries

/-- Where no key comes twice, looking up finds whatever stands in the list. -/
theorem lookup_eq_some_of_nodup {α : Type} {entries : Entries α} {key : String} {value : α}
    (hnodup : (keys entries).Nodup) :
    entries.lookup key = some value ↔ (key, value) ∈ entries := by
  induction entries with
  | nil => simp
  | cons entry rest ih =>
      obtain ⟨first, old⟩ := entry
      simp only [keys, List.map_cons, List.nodup_cons] at hnodup
      by_cases hkey : key = first
      · subst hkey
        have hnot : (key, value) ∉ rest := fun hmem =>
          hnodup.1 (List.mem_map_of_mem hmem)
        simp [hnot, eq_comm]
      · rw [lookup_cons_of_ne hkey, ih hnodup.2]
        simp [hkey]

theorem lookup_of_perm {α : Type} {entries entries' : Entries α} (hperm : entries'.Perm entries)
    (hnodup : (keys entries).Nodup) (key : String) :
    entries'.lookup key = entries.lookup key := by
  have hnodup' : (keys entries').Nodup := (hperm.map Prod.fst).nodup_iff.mpr hnodup
  apply Option.ext
  intro value
  rw [lookup_eq_some_of_nodup hnodup', lookup_eq_some_of_nodup hnodup, hperm.mem_iff]

theorem lookup_of_forall₂ {α β : Type} {relation : α → β → Prop} {entries : Entries α}
    {others : Entries β} (h : List.Forall₂ (fun entry other => other.1 = entry.1 ∧
      relation entry.2 other.2) entries others) (key : String) :
    Option.Rel relation (entries.lookup key) (others.lookup key) := by
  induction h with
  | nil => exact .none
  | @cons entry other _ _ hentry _ ih =>
      obtain ⟨first, old⟩ := entry
      obtain ⟨first', old'⟩ := other
      obtain ⟨rfl, hrelation⟩ := hentry
      by_cases hkey : key = first'
      · subst hkey
        simpa using Option.Rel.some hrelation
      · rwa [lookup_cons_of_ne hkey, lookup_cons_of_ne hkey]

end Entries

namespace Document.Rearranged

variable {document other : Document} (h : document.Rearranged other)

include h

theorem size_eq : other.shapes.size = document.shapes.size :=
  h.shapes.length_eq

/-- An id is found in both documents, with shapes that differ at most in order, or in neither. -/
theorem lookup? (id : String) :
    Option.Rel Shape.Rearranged (document.lookup? id) (other.lookup? id) := by
  rw [Document.lookup?, Document.lookup?]
  cases Prelude.shape? id with
  | some shape => exact .some (.refl shape)
  | none =>
      obtain ⟨ordered, hperm, hordered⟩ := h.shapes
      have hfound := Entries.lookup_of_forall₂ hordered id
      rwa [Entries.lookup_of_perm hperm document.shapes.keys_nodup] at hfound

theorem lookup?_resource {id : String} {shape : ResourceShape}
    (hshape : document.lookup? id = some (.resource shape)) :
    ∃ shape', other.lookup? id = some (.resource shape') ∧ shape.Rearranged shape' := by
  have hlookup := h.lookup? id
  rw [hshape] at hlookup
  generalize other.lookup? id = found at hlookup ⊢
  cases hlookup with
  | some hrearranged =>
      cases hrearranged with
      | resource hresource => exact ⟨_, rfl, hresource⟩
      | refl => exact ⟨shape, rfl, .refl shape⟩

theorem resolveValue_eq (id : String) : other.resolveValue id = document.resolveValue id := by
  have hlookup := h.lookup? id
  rw [resolveValue, resolveValue, resolve, resolve]
  generalize document.lookup? id = found, other.lookup? id = found' at hlookup ⊢
  cases hlookup with
  | none => rfl
  | @some shape shape' hshape =>
      show Shape.requireValue id shape' = Shape.requireValue id shape
      rw [Shape.requireValue, Shape.requireValue, hshape.kind_eq]
      split
      · next hvalue => rw [hshape.eq_of_isValue hvalue]
      · rfl

theorem resolveOperation_eq (id : String) :
    other.resolveOperation id = document.resolveOperation id := by
  have hlookup := h.lookup? id
  rw [resolveOperation, resolveOperation, resolve, resolve]
  generalize document.lookup? id = found, other.lookup? id = found' at hlookup ⊢
  cases hlookup with
  | none => rfl
  | some hshape =>
      cases hshape with
      | service => rfl
      | resource => rfl
      | refl => rfl

end Document.Rearranged

/-- Examples depend on a document only through the shapes that references lead to. -/
theorem Example.ofShape_congr {document other : Document}
    (h : ∀ id, other.resolveValue id = document.resolveValue id) (frames : Nat) (id : String)
    (shape : Shape) (name : String) :
    ofShape other frames id shape name = ofShape document frames id shape name := by
  induction frames generalizing id shape name with
  | zero => rfl
  | succ frames ih => cases shape <;> simp only [ofShape, h, ih]

namespace Model.Rearranged

variable {model other : Model} (h : model.Rearranged other)

include h

theorem maxLevels_eq : other.maxLevels = model.maxLevels := by
  rw [maxLevels, maxLevels, h.document.size_eq]

theorem requestTemplate_eq (inputId name : String) :
    other.requestTemplate inputId name = model.requestTemplate inputId name := by
  have hframes : Example.maxFrames other.document = Example.maxFrames model.document := by
    rw [Example.maxFrames, Example.maxFrames, h.document.size_eq]
  rw [requestTemplate, requestTemplate, Document.exemplify, Document.exemplify, hframes,
    h.document.resolveValue_eq]
  simp only [Example.ofShape_congr h.document.resolveValue_eq]

/-- The operation of a reference is the same, and so is the fault if there is one. -/
theorem operation_eq (ref : ShapeRef) : other.operation ref = model.operation ref := by
  rw [operation, operation, h.document.resolveOperation_eq, h.shortName]
  congr 1
  funext shape
  have hlookup := h.document.lookup? shape.inputId
  rw [Document.resolve, Document.resolve]
  generalize model.document.lookup? shape.inputId = found,
    other.document.lookup? shape.inputId = found' at hlookup ⊢
  cases hlookup with
  | none => rw [error_bind, error_bind]
  | @some input input' hinput =>
      rw [ok_bind, ok_bind, hinput.isInput_eq, hinput.kind_eq, h.requestTemplate_eq]

end Model.Rearranged

end ShapeCatalog
