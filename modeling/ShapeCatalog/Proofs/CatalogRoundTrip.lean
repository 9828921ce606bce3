import ShapeCatalog.Catalog.Reader
import ShapeCatalog.Catalog.Writer
import ShapeCatalog.Proofs.RecordReadBack

/-!
Catalogs written and read again.  If the request templates are exact, the text of a catalog is read
as the very same catalog, unless it opens more containers than may be open at once, and then it is
refused.  A catalog that was read never opens so many, and no double in it is written so that it is
refused, so it can be written and read any number of times.
-/

namespace ShapeCatalog

open Json (FieldSpec Fields Reader Record Value)
open Json.Reader (readsBack_text readsBack_value)

/-- A text that may be absent is left out where it is. -/
theorem readsBack_presentText {name : String} {room : Nat} :
    (FieldSpec.optional name Reader.text).ReadsBack (fun text => text.map .string) room := by
  refine .defaulted (readsBack_text.optional nofun) ⟨Nat.zero_le _, rfl⟩ ?_
  intro text
  cases text with
  | none => exact Or.inr ⟨rfl, rfl⟩
  | some text => exact Or.inl rfl

theorem Operation.readsBack {room : Nat} : Operation.reader.ReadsBack Operation.toValue room := by
  have hfields : Operation.record.fields.ReadBack (room - 1) _ :=
    .cons (.required readsBack_text) <| .cons (.required readsBack_text) <|
    .cons (.required readsBack_text) <| .cons readsBack_presentText <|
    .cons (.required readsBack_value) .nil
  refine (Record.readsBack hfields (by decide)).map ?_ ?_
  · rintro ⟨name, operationId, methodName, description, requestTemplate, ⟨⟩⟩
    cases description <;> rfl
  · rintro ⟨name, operationId, methodName, description, requestTemplate⟩
    exact ⟨(name, operationId, methodName, description, requestTemplate, ()), rfl⟩

theorem Resource.toValues_eq_map (resources : List Resource) :
    Resource.toValues resources = resources.map Resource.toValue := by
  induction resources with
  | nil => rfl
  | cons resource rest ih => rw [Resource.toValues, ih, List.map_cons]

/-- Every generation opens containers, so that a reader of so many generations is a reader of all
resources where no more containers may be opened. -/
theorem Resource.readsBack_readerTo {generations room : Nat} (hroom : room ≤ generations) :
    (Resource.readerTo generations).ReadsBack Resource.toValue room := by
  induction generations generalizing room with
  | zero =>
      obtain rfl := Nat.le_zero.mp hroom
      refine ⟨nofun, fun {found} _ => ?_⟩
      obtain ⟨nodeId, name, resources, operations⟩ := found
      exact .error Json.ReadError.malformed (Nat.not_succ_le_zero _)
  | succ generations ih =>
      have hchildren : (Resource.readerTo generations).ReadsBack Resource.toValue (room - 1 - 1) :=
        ih (by omega)
      have hfields :
          (Resource.record (Resource.readerTo generations)).fields.ReadBack (room - 1) _ :=
        .cons (.required readsBack_text) <| .cons (.required readsBack_text) <|
        .cons (.required hchildren.list) <| .cons (.required Operation.readsBack.list) .nil
      have hnames : ["nodeId", "name", "resources", "operations"].Nodup := by decide
      refine (Record.readsBack hfields hnames).map ?_ ?_
      · rintro ⟨nodeId, name, resources, operations, ⟨⟩⟩
        rw [Resource.toValue, Resource.toValues_eq_map]
        rfl
      · rintro ⟨nodeId, name, resources, operations⟩
        exact ⟨(nodeId, name, resources, operations, ()), rfl⟩

theorem Service.readsBack {room : Nat} (hroom : room ≤ Json.maxOpen) :
    Service.reader.ReadsBack Service.toValue room := by
  have hresources : Resource.reader.ReadsBack Resource.toValue (room - 1 - 1) :=
    Resource.readsBack_readerTo (by omega)
  have hfields : Service.record.fields.ReadBack (room - 1) _ :=
    .cons (.required readsBack_text) <| .cons (.required readsBack_text) <|
    .cons (.required readsBack_text) <| .cons readsBack_presentText <|
    .cons (.required hresources.list) <| .cons (.required Operation.readsBack.list) .nil
  refine (Record.readsBack hfields (by decide)).map ?_ ?_
  · rintro ⟨nodeId, name, shortName, className, resources, operations, ⟨⟩⟩
    rw [Service.toValue, Resource.toValues_eq_map]
    cases className <;> rfl
  · rintro ⟨nodeId, name, shortName, className, resources, operations⟩
    exact ⟨(nodeId, name, shortName, className, resources, operations, ()), rfl⟩

theorem Catalog.readsBack {room : Nat} (hroom : room ≤ Json.maxOpen) :
    Catalog.reader.ReadsBack Catalog.toValue room := by
  have hservices : Service.reader.ReadsBack Service.toValue (room - 1 - 1) :=
    Service.readsBack (by omega)
  have hfields : Catalog.record.fields.ReadBack (room - 1) _ :=
    .cons (.required hservices.list) .nil
  refine (Record.readsBack hfields (by decide)).map ?_ ?_
  · rintro ⟨services, ⟨⟩⟩
    rfl
  · rintro ⟨services⟩
    exact ⟨(services, ()), rfl⟩

section Check

variable {check : Value → Bool}

theorem Operation.check_toValue (hcheck : Value.Compositional check) {operation : Operation}
    (h : check operation.requestTemplate = true) : check operation.toValue = true := by
  obtain ⟨name, operationId, methodName, description, requestTemplate⟩ := operation
  cases description with
  | none =>
      refine hcheck.object (show ["name", "operationId", "methodName", "requestTemplate"].Nodup by
        decide) ?_
      simp [presentText, hcheck.string, h]
  | some text =>
      refine hcheck.object (show ["name", "operationId", "methodName", "description",
        "requestTemplate"].Nodup by decide) ?_
      simp [presentText, hcheck.string, h]

mutual

theorem Resource.check_toValue (hcheck : Value.Compositional check) : (resource : Resource) →
    (∀ inner ∈ resource.family, ∀ operation ∈ inner.operations,
      check operation.requestTemplate = true) → check resource.toValue = true
  | ⟨nodeId, name, resources, operations⟩, h => by
      rw [Resource.family, List.forall_mem_cons] at h
      have hresources := hcheck.array (Resource.check_toValues hcheck resources h.2)
      have hoperations : check (.array (operations.map Operation.toValue)) = true := by
        refine hcheck.array (List.forall_mem_map.mpr fun operation hoperation => ?_)
        exact Operation.check_toValue hcheck (h.1 operation hoperation)
      refine hcheck.object (show ["nodeId", "name", "resources", "operations"].Nodup by decide) ?_
      simp [hcheck.string, hresources, hoperations]

theorem Resource.check_toValues (hcheck : Value.Compositional check) : (resources : List Resource) →
    (∀ inner ∈ Resource.families resources, ∀ operation ∈ inner.operations,
      check operation.requestTemplate = true) →
    ∀ value ∈ Resource.toValues resources, check value = true
  | [], _ => List.forall_mem_nil _
  | resource :: rest, h => by
      rw [Resource.families, List.forall_mem_append] at h
      rw [Resource.toValues, List.forall_mem_cons]
      exact ⟨Resource.check_toValue hcheck resource h.1, Resource.check_toValues hcheck rest h.2⟩

end

theorem Service.check_toValue (hcheck : Value.Compositional check) {service : Service}
    (h : ∀ operation ∈ service.allOperations, check operation.requestTemplate = true) :
    check service.toValue = true := by
  obtain ⟨nodeId, name, shortName, className, resources, operations⟩ := service
  rw [Service.allOperations, List.forall_mem_append] at h
  have hresources : check (.array (Resource.toValues resources)) = true := by
    refine hcheck.array (Resource.check_toValues hcheck resources ?_)
    intro inner hinner operation hoperation
    exact h.2 operation (List.mem_flatMap.mpr ⟨inner, hinner, hoperation⟩)
  have hoperations : check (.array (operations.map Operation.toValue)) = true := by
    refine hcheck.array (List.forall_mem_map.mpr fun operation hoperation => ?_)
    exact Operation.check_toValue hcheck (h.1 operation hoperation)
  cases className with
  | none =>
      refine hcheck.object (show ["nodeId", "name", "shortName", "resources",
        "operations"].Nodup by decide) ?_
      simp [presentText, hcheck.string, hresources, hoperations]
  | some text =>
      refine hcheck.object (show ["nodeId", "name", "shortName", "className", "resources",
        "operations"].Nodup by decide) ?_
      simp [presentText, hcheck.string, hresources, hoperations]

/-- A catalog passes if all its request templates do. -/
theorem Catalog.check_toValue (hcheck : Value.Compositional check) {catalog : Catalog}
    (h : ∀ operation ∈ catalog.operations, check operation.requestTemplate = true) :
    check catalog.toValue = true := by
  have hservices : check (.array (catalog.services.map Service.toValue)) = true := by
    refine hcheck.array (List.forall_mem_map.mpr fun service hservice => ?_)
    refine Service.check_toValue hcheck fun operation hoperation => ?_
    exact h operation (List.mem_flatMap.mpr ⟨service, hservice, hoperation⟩)
  exact hcheck.object (show ["services"].Nodup by decide)
    (List.forall_mem_singleton.mpr hservices)

end Check

namespace Catalog

theorem ofText_eq_ok {text : String} {catalog : Catalog} :
    Catalog.ofText text = .ok catalog ↔ Reader.ofText Catalog.reader text = .ok catalog := by
  rw [Catalog.ofText]
  cases Reader.ofText Catalog.reader text with
  | ok found =>
      constructor
      · intro h
        rw [Except.ok.inj h]
      · intro h
        obtain rfl := Except.ok.inj h
        rfl
  | error fault =>
      constructor
      · intro h
        cases h
      · intro h
        cases h

theorem readsBack_maxOpen : Catalog.reader.ReadsBack Catalog.toValue Json.maxOpen :=
  Catalog.readsBack (Nat.le_refl _)

theorem ofText_write_of_reread (layout : Json.Layout) {catalog : Catalog}
    (hregular : catalog.toValue.isRegular = true)
    (hsame : catalog.toValue.reread = catalog.toValue) (hfits : catalog.toValue.depth ≤ 127) :
    Catalog.ofText (catalog.write layout) = .ok catalog := by
  obtain ⟨again, hagain, hkeeps⟩ :=
    (readsBack_maxOpen.succeedsIff_ofText layout hregular).exists_ok hfits
  rw [hkeeps hsame] at hagain
  exact ofText_eq_ok.mpr hagain

theorem ofText_write_of_exact (layout : Json.Layout) {catalog : Catalog}
    (hexact : catalog.toValue.isExact = true) :
    (catalog.toValue.depth ≤ 127 → Catalog.ofText (catalog.write layout) = .ok catalog) ∧
      (127 < catalog.toValue.depth → ∃ error,
        Catalog.ofText (catalog.write layout) = .error error ∧ error.group = .json) := by
  have hregular := (Value.isExact_iff.mp hexact).1
  refine ⟨ofText_write_of_reread layout hregular (Value.reread_of_isExact _ hexact), ?_⟩
  intro hdeep
  have hread := readsBack_maxOpen.succeedsIff_ofText layout hregular
  obtain ⟨fault, hfault⟩ := hread.fails (Nat.not_le.mpr hdeep)
  refine ⟨.malformedCatalog fault, ?_, rfl⟩
  rw [Catalog.ofText, write, hfault]
  rfl

/-- A catalog whose request templates are exact is read from its text as the same catalog if it
opens at most 127 containers at once, and is refused as malformed otherwise.  A catalog that was
read from a text opens no more than that and is read again from its own, as the same catalog if it
has no doubles. -/
theorem roundTrip_of_exact (layout : Json.Layout) :
    (∀ catalog : Catalog,
      (∀ operation ∈ catalog.operations, operation.requestTemplate.isExact = true) →
      (catalog.toValue.depth ≤ 127 → Catalog.ofText (catalog.write layout) = .ok catalog) ∧
        (127 < catalog.toValue.depth → ∃ error,
          Catalog.ofText (catalog.write layout) = .error error ∧ error.group = .json)) ∧
    ∀ (text : String) (catalog : Catalog), Catalog.ofText text = .ok catalog →
      catalog.toValue.depth ≤ 127 ∧
        ∃ again, Catalog.ofText (catalog.write layout) = .ok again ∧
          ((∀ operation ∈ catalog.operations, operation.requestTemplate.isDoubleFree = true) →
            again = catalog) := by
  constructor
  · intro catalog hexact
    exact ofText_write_of_exact layout (check_toValue Value.compositional_isExact hexact)
  · intro text catalog hread
    rw [ofText_eq_ok] at hread
    obtain ⟨again, hagain, hkeeps⟩ := readsBack_maxOpen.exists_reread layout hread
    have hwithin := readsBack_maxOpen.within_of_ofText hread
    refine ⟨hwithin.depth_le, again, ofText_eq_ok.mpr hagain, fun hfree => ?_⟩
    have hexact := hwithin.isExact (check_toValue Value.compositional_isDoubleFree hfree)
    exact hkeeps (Value.reread_of_isExact _ hexact)

end Catalog

namespace Library

/-- So many arrays, one inside the other. -/
def nest : Nat → Value
  | 0 => .null
  | levels + 1 => .array [nest levels]

theorem depth_nest (levels : Nat) : (nest levels).depth = levels := by
  induction levels with
  | zero => rfl
  | succ levels ih => rw [nest, Value.depth, Value.depthItems, Value.depthItems, ih, Nat.max_zero]

theorem isExact_nest (levels : Nat) : (nest levels).isExact = true := by
  induction levels with
  | zero => rfl
  | succ levels ih =>
      rw [nest, Value.isExact, Value.itemsExact, Value.itemsExact, ih, Bool.and_true]

theorem isDoubleFree_nest (levels : Nat) : (nest levels).isDoubleFree = true := by
  induction levels with
  | zero => rfl
  | succ levels ih =>
      rw [nest, Value.isDoubleFree, Value.itemsDoubleFree, Value.itemsDoubleFree, ih, Bool.and_true]

/-- A service with one operation, whose request is this value. -/
def sending (template : Value) : Catalog where
  services := [{
    nodeId := "lib"
    name := "Library"
    shortName := "lib"
    className := none
    resources := []
    operations := [⟨"Ping", "lib.Ping", "ping", "Sends \"ping\".", template⟩] }]

theorem depth_sending (template : Value) :
    (sending template).toValue.depth = template.depth + 5 := by
  simp [sending, Catalog.toValue, Service.toValue, Resource.toValues, Operation.toValue,
    presentText, Value.depth, Value.depthItems, Value.depthEntries]

theorem forall_sending {check : Value → Bool} {template : Value} (h : check template = true) :
    ∀ operation ∈ (sending template).operations, check operation.requestTemplate = true :=
  List.forall_mem_singleton.mpr h

theorem isRegular_sending (template : Value) :
    (sending template).toValue.isRegular = template.isRegular := by
  simp [sending, Catalog.toValue, Service.toValue, Resource.toValues, Operation.toValue,
    presentText, Value.isRegular, Value.itemsRegular, Value.entriesRegular, Entries.keys]

/-- The greatest double, as a value. -/
def widest : Value :=
  .number (.double Json.Double.greatest)

theorem ofText_widest (layout : Json.Layout) :
    Catalog.ofText ((sending widest).write layout) = .ok (sending widest) := by
  have hsame : widest.reread = widest := congrArg Value.number Json.Number.reread_greatest
  refine Catalog.ofText_write_of_reread layout ?_ ?_ ?_
  · rw [isRegular_sending]
    rfl
  · exact congrArg (fun template => (sending template).toValue) hsame
  · rw [depth_sending]
    decide

/-- There is room for 122 arrays in a template, and no more; and the greatest double, which is the
one nearest to being refused, is read again. -/
theorem roundTrip_sending :
    (Catalog.ofText ((sending (nest 122)).write .pretty) = .ok (sending (nest 122)) ∧
      Catalog.ofText ((sending (nest 122)).write .compact) = .ok (sending (nest 122))) ∧
    (∃ error, Catalog.ofText ((sending (nest 123)).write .pretty) = .error error ∧
      error.group = .json) ∧
    Catalog.ofText ((sending widest).write .pretty) = .ok (sending widest) ∧
      ∃ again, Catalog.ofText ((sending widest).write .compact) = .ok again := by
  have hexact (levels : Nat) := forall_sending (isExact_nest levels)
  have hfits : (sending (nest 122)).toValue.depth ≤ 127 := by
    rw [depth_sending, depth_nest]
  have hdeep : 127 < (sending (nest 123)).toValue.depth := by
    rw [depth_sending, depth_nest]
    decide
  have hpretty := ((Catalog.roundTrip_of_exact .pretty).1 _ (hexact 122)).1 hfits
  obtain ⟨-, again, hcompact, hsame⟩ := (Catalog.roundTrip_of_exact .compact).2 _ _ hpretty
  rw [hsame (forall_sending (isDoubleFree_nest 122))] at hcompact
  have hrefused := ((Catalog.roundTrip_of_exact .pretty).1 _ (hexact 123)).2 hdeep
  have hwidest := ofText_widest .pretty
  obtain ⟨-, reread, hreread, -⟩ := (Catalog.roundTrip_of_exact .compact).2 _ _ hwidest
  exact ⟨⟨hpretty, hcompact⟩, hrefused, hwidest, reread, hreread⟩

end Library

end ShapeCatalog
