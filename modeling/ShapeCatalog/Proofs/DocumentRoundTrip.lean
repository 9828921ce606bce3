import ShapeCatalog.Catalog.OfModels
import ShapeCatalog.Proofs.RecordReadBack
import ShapeCatalog.Shape.Writer

/-!
Documents written and read again.  A document may be spelled in many ways and is written in one.
What is written fits the room that its first spelling kept to, also where defaults are written
out, and if it has no doubles it is read as the same document, so that writing it once more
changes nothing.
-/

namespace ShapeCatalog

open Json (FieldSpec Fields Reader Record Value)
open Json.Reader (readsBack_text readsBack_value writeEntries)

theorem within_emptyArray {room : Nat} (hroom : 1 ≤ room) : (Value.array []).Within room :=
  (Value.within_array (List.forall_mem_nil _)).mono hroom

theorem within_emptyObject {room : Nat} (hroom : 1 ≤ room) : (Value.object []).Within room := by
  have hnodup : (Entries.keys ([] : Entries Value)).Nodup := List.nodup_nil
  exact (Value.within_object hnodup (List.forall_mem_nil _)).mono hroom

theorem writeEntries_id (entries : Entries Value) : writeEntries id entries = entries :=
  List.map_id entries

/-- Values by name are read back. -/
theorem readsBack_values {room : Nat} : (Reader.sortedMap Reader.value).ReadsBack
    (fun map => .object map.entries) room := by
  have hvalue : Reader.value.ReadsBack id (room - 1) := readsBack_value
  simpa only [writeEntries_id] using hvalue.sortedMap

/-- A text that may be absent is written as `null` where it is. -/
theorem readsBack_optionalText {name : String} {room : Nat} :
    (FieldSpec.optional name Reader.text).ReadsBack
      (fun text => some (optionalText text)) room := by
  refine .defaulted (readsBack_text.optional nofun) ⟨Nat.zero_le _, rfl⟩ ?_
  intro text
  cases text <;> exact Or.inl rfl

theorem Traits.readsBack_field {room : Nat} (hroom : 1 ≤ room) :
    Traits.field.ReadsBack (fun traits => some traits.toValue) room :=
  .defaulted readsBack_values (within_emptyObject hroom) fun _ => Or.inl rfl

/-- A reference leaves out its annotations where it has none. -/
theorem Traits.readsBack_field_leftOut {room : Nat} (hroom : 1 ≤ room) : Traits.field.ReadsBack
    (fun traits => if traits.isEmpty then none else some traits.toValue) room := by
  refine .defaulted readsBack_values (within_emptyObject hroom) fun traits => ?_
  by_cases hempty : traits.isEmpty = true
  · rw [if_pos hempty]
    exact Or.inr ⟨rfl, SortedMap.ext_entries (List.isEmpty_iff.mp hempty)⟩
  · rw [if_neg hempty]
    exact Or.inl rfl

theorem Traits.toEntries_eq (traits : Traits) : traits.toEntries
    = ((if traits.isEmpty then none else some traits.toValue).map fun value =>
        (Traits.field.name, value)).toList := by
  rw [toEntries]
  split <;> rfl

namespace ShapeRef

theorem readsBack {room : Nat} (hroom : 2 ≤ room) :
    ShapeRef.reader.ReadsBack ShapeRef.toValue room := by
  have hfields : ShapeRef.record.fields.ReadBack (room - 1) _ :=
    .cons (.required readsBack_text) <| .cons (Traits.readsBack_field_leftOut (by omega)) .nil
  refine (Record.readsBack hfields (by decide)).map ?_ ?_
  · rintro ⟨target, traits, ⟨⟩⟩
    have htraits := (Traits.toEntries_eq traits).trans (List.append_nil _).symm
    exact congrArg (fun entries => Value.object (("target", .string target) :: entries)) htraits
  · rintro ⟨target, traits⟩
    exact ⟨(target, traits, ()), rfl⟩

theorem readsBack_listField {name : String} {room : Nat} (hroom : 3 ≤ room) :
    (listField name).ReadsBack (fun refs => some (listToValue refs)) room :=
  .defaulted (readsBack (by omega)).list (within_emptyArray (by omega)) fun _ => Or.inl rfl

theorem readsBack_mapField {name : String} {room : Nat} (hroom : 3 ≤ room) :
    (mapField name).ReadsBack (fun refs => some (mapToValue refs)) room :=
  .defaulted (readsBack (by omega)).orderedMap (within_emptyObject (by omega)) fun _ => Or.inl rfl

theorem readsBack_optionalField {name : String} {room : Nat} (hroom : 3 ≤ room) :
    (FieldSpec.optional name reader).ReadsBack (fun ref? => some (optionToValue ref?)) room := by
  refine .defaulted ((readsBack (by omega)).optional nofun) ⟨Nat.zero_le _, rfl⟩ ?_
  intro ref?
  cases ref? <;> exact Or.inl rfl

theorem readsBack_requiredField {name : String} {room : Nat} (hroom : 3 ≤ room) :
    (FieldSpec.required name reader).ReadsBack (fun ref => some ref.toValue) room :=
  .required (readsBack (by omega))

end ShapeRef

open ShapeRef (readsBack_listField readsBack_mapField readsBack_optionalField
  readsBack_requiredField)
open Traits (readsBack_field)

section Records

-- Wherever a document has a shape, there is room for a list, a reference in it and the annotations
-- of that, so that defaults fit when they are written out.  What is written of the fields one by
-- one are the entries of the shape by unfolding.
variable {room : Nat} (hroom : 3 ≤ room)

include hroom

theorem ServiceShape.readBack : ServiceShape.record.fields.ReadBack room
    fun (version, operations, resources, errors, traits, _) =>
      toEntries ⟨version, operations, resources, errors, traits⟩ := by
  have hfields : ServiceShape.record.fields.ReadBack room _ :=
    .cons readsBack_optionalText <| .cons (readsBack_listField hroom) <|
    .cons (readsBack_listField hroom) <| .cons (readsBack_listField hroom) <|
    .cons (readsBack_field (by omega)) .nil
  exact hfields

theorem ResourceShape.readBack : ResourceShape.record.fields.ReadBack room
    fun (identifiers, create, put, read, update, delete, list, operations, collectionOperations,
        resources, traits, _) =>
      toEntries ⟨identifiers, create, put, read, update, delete, list, operations,
        collectionOperations, resources, traits⟩ := by
  have hfields : ResourceShape.record.fields.ReadBack room _ :=
    .cons (readsBack_mapField hroom) <| .cons (readsBack_optionalField hroom) <|
    .cons (readsBack_optionalField hroom) <| .cons (readsBack_optionalField hroom) <|
    .cons (readsBack_optionalField hroom) <| .cons (readsBack_optionalField hroom) <|
    .cons (readsBack_optionalField hroom) <| .cons (readsBack_listField hroom) <|
    .cons (readsBack_listField hroom) <| .cons (readsBack_listField hroom) <|
    .cons (readsBack_field (by omega)) .nil
  exact hfields

theorem OperationShape.readBack : OperationShape.record.fields.ReadBack room
    fun (input, output, errors, traits, _) => toEntries ⟨input, output, errors, traits⟩ := by
  have hfields : OperationShape.record.fields.ReadBack room _ :=
    .cons (readsBack_optionalField hroom) <| .cons (readsBack_optionalField hroom) <|
    .cons (readsBack_listField hroom) <| .cons (readsBack_field (by omega)) .nil
  exact hfields

theorem MembersShape.readBack (name : String) : (MembersShape.record name).fields.ReadBack room
    fun (members, traits, _) => toEntries ⟨members, traits⟩ := by
  have hfields : (MembersShape.record name).fields.ReadBack room _ :=
    .cons (readsBack_mapField hroom) <| .cons (readsBack_field (by omega)) .nil
  exact hfields

omit hroom in
theorem MembersShape.nodup_names (name : String) : (record name).fields.names.Nodup :=
  show ["members", "traits"].Nodup by decide

theorem ListShape.readBack : ListShape.record.fields.ReadBack room
    fun (member, traits, _) => toEntries ⟨member, traits⟩ := by
  have hfields : ListShape.record.fields.ReadBack room _ :=
    .cons (readsBack_requiredField hroom) <| .cons (readsBack_field (by omega)) .nil
  exact hfields

theorem MapShape.readBack : MapShape.record.fields.ReadBack room
    fun (key, value, traits, _) => toEntries ⟨key, value, traits⟩ := by
  have hfields : MapShape.record.fields.ReadBack room _ :=
    .cons (readsBack_requiredField hroom) <| .cons (readsBack_requiredField hroom) <|
    .cons (readsBack_field (by omega)) .nil
  exact hfields

theorem SimpleKind.readBack : SimpleKind.record.fields.ReadBack room
    fun (traits, _) => traits.toEntries := by
  have hfields : SimpleKind.record.fields.ReadBack room _ :=
    .cons (Traits.readsBack_field_leftOut (by omega)) .nil
  simpa only [Traits.toEntries_eq, List.append_nil] using hfields

end Records

namespace Shape

/-- No field of a shape comes twice, and none has the name of the field that holds the tag. -/
theorem nodup_keys_toEntries (shape : Shape) : ("type" :: Entries.keys shape.toEntries).Nodup := by
  cases shape with
  | simple kind traits =>
      rw [toEntries, Traits.toEntries]
      split <;> simp [Entries.keys]
  | _ =>
      simp [toEntries, ServiceShape.toEntries, ResourceShape.toEntries, OperationShape.toEntries,
        MembersShape.toEntries, ListShape.toEntries, MapShape.toEntries, Entries.keys]

/-- Whatever kind a shape is of, what is written of its fields fits the room they were read with. -/
theorem within_of_ofPayload {room : Nat} (hroom : 3 ≤ room) {payload : Json.Payload} {kind : Kind}
    {shape : Shape} (h : ofPayload room payload kind = .ok shape) :
    ∀ entry ∈ shape.toEntries, entry.2.Within room := by
  cases kind with
  | service =>
      obtain ⟨values, hvalues, rfl⟩ := map_eq_ok.mp h
      exact Record.within_of_ofPayload (ServiceShape.readBack hroom) hvalues
  | resource =>
      obtain ⟨values, hvalues, rfl⟩ := map_eq_ok.mp h
      exact Record.within_of_ofPayload (ResourceShape.readBack hroom) hvalues
  | operation =>
      obtain ⟨values, hvalues, rfl⟩ := map_eq_ok.mp h
      exact Record.within_of_ofPayload (OperationShape.readBack hroom) hvalues
  | map =>
      obtain ⟨values, hvalues, rfl⟩ := map_eq_ok.mp h
      exact Record.within_of_ofPayload (MapShape.readBack hroom) hvalues
  | simple kind =>
      obtain ⟨values, hvalues, rfl⟩ := map_eq_ok.mp h
      exact Record.within_of_ofPayload (SimpleKind.readBack hroom) hvalues
  | list | set =>
      obtain ⟨_, hshape, rfl⟩ := map_eq_ok.mp h
      obtain ⟨values, hvalues, rfl⟩ := map_eq_ok.mp hshape
      exact Record.within_of_ofPayload (ListShape.readBack hroom) hvalues
  | struct | union | enum | intEnum =>
      obtain ⟨_, hshape, rfl⟩ := map_eq_ok.mp h
      obtain ⟨values, hvalues, rfl⟩ := map_eq_ok.mp hshape
      exact Record.within_of_ofPayload (MembersShape.readBack hroom _) hvalues

theorem succeedsIff_ofMembersPayload {room : Nat} (hroom : 3 ≤ room) (name : String)
    (shape : MembersShape) (hregular : Value.entriesRegular shape.toEntries = true) :
    SucceedsIff (ofMembersPayload name room (.entries (Value.entryTrees shape.toEntries)))
      (∀ entry ∈ shape.toEntries, entry.2.depth ≤ room)
      (Value.Keeps (.object shape.toEntries) shape) := by
  have hread := (MembersShape.readBack hroom name).decodes (MembersShape.nodup_names name)
    (shape.members, shape.traits, ()) hregular
  refine hread.map fun again hkeeps hsame => ?_
  rw [hkeeps hsame]

theorem succeedsIff_ofListPayload {room : Nat} (hroom : 3 ≤ room) (shape : ListShape)
    (hregular : Value.entriesRegular shape.toEntries = true) :
    SucceedsIff (ofListPayload room (.entries (Value.entryTrees shape.toEntries)))
      (∀ entry ∈ shape.toEntries, entry.2.depth ≤ room)
      (Value.Keeps (.object shape.toEntries) shape) := by
  have hread := (ListShape.readBack hroom).decodes (by decide) (shape.member, shape.traits, ())
    hregular
  refine hread.map fun again hkeeps hsame => ?_
  rw [hkeeps hsame]

/-- The fields of a shape are read as a shape of its kind again. -/
theorem succeedsIff_ofPayload {room : Nat} (hroom : 3 ≤ room) (shape : Shape)
    (hregular : Value.entriesRegular shape.toEntries = true) :
    SucceedsIff (ofPayload room (.entries (Value.entryTrees shape.toEntries)) shape.kind)
      (∀ entry ∈ shape.toEntries, entry.2.depth ≤ room)
      (Value.Keeps (.object shape.toEntries) shape) := by
  cases shape with
  | service shape =>
      have hread := (ServiceShape.readBack hroom).decodes (by decide) (shape.version,
        shape.operations, shape.resources, shape.errors, shape.traits, ()) hregular
      exact hread.map fun again hkeeps hsame => by rw [hkeeps hsame]
  | resource shape =>
      have hread := (ResourceShape.readBack hroom).decodes (by decide) (shape.identifiers,
        shape.create, shape.put, shape.read, shape.update, shape.delete, shape.list,
        shape.operations, shape.collectionOperations, shape.resources, shape.traits, ()) hregular
      exact hread.map fun again hkeeps hsame => by rw [hkeeps hsame]
  | operation shape =>
      have hread := (OperationShape.readBack hroom).decodes (by decide) (shape.input, shape.output,
        shape.errors, shape.traits, ()) hregular
      exact hread.map fun again hkeeps hsame => by rw [hkeeps hsame]
  | map shape =>
      have hread := (MapShape.readBack hroom).decodes (by decide) (shape.key, shape.value,
        shape.traits, ()) hregular
      exact hread.map fun again hkeeps hsame => by rw [hkeeps hsame]
  | simple kind traits =>
      have hread := (SimpleKind.readBack hroom).decodes (by decide) (traits, ()) hregular
      exact hread.map fun again hkeeps hsame => by rw [hkeeps hsame]
  | list shape | set shape =>
      exact (succeedsIff_ofListPayload hroom shape hregular).map fun again hkeeps hsame =>
        congrArg _ (hkeeps hsame)
  | struct shape | union shape | enum shape | intEnum shape =>
      exact (succeedsIff_ofMembersPayload hroom _ shape hregular).map fun again hkeeps hsame =>
        congrArg _ (hkeeps hsame)

theorem readsBack {room : Nat} (hroom : 4 ≤ room) : Shape.reader.ReadsBack Shape.toValue room where
  within {tree shape} hread := by
    obtain ⟨⟨kind, payload⟩, -, hshape⟩ := bind_eq_ok.mp hread
    have hentries := within_of_ofPayload (by omega) hshape
    have hroom : room - 1 + 1 = room := by omega
    rw [← hroom]
    refine Value.within_object (nodup_keys_toEntries shape) ?_
    exact List.forall_mem_cons.mpr ⟨⟨Nat.zero_le _, rfl⟩, hentries⟩
  decodes {shape} hregular := by
    rw [toValue, Value.isRegular, Bool.and_eq_true, Value.entriesRegular, Bool.and_eq_true]
      at hregular
    have hdepth : shape.toValue.depth = Value.depthEntries shape.toEntries + 1 :=
      congrArg (· + 1) (Nat.zero_max _)
    have hnot : choice.field ∉ Entries.keys shape.toEntries :=
      (List.nodup_cons.mp (nodup_keys_toEntries shape)).1
    have hsplit : SucceedsIff (choice.split room shape.toValue.toTree)
        (shape.toValue.depth ≤ room)
        (fun parts => parts = (shape.kind, .entries (Value.entryTrees shape.toEntries))) :=
      Json.Choice.split_toTree (lookup_tag shape.kind) hregular.2.2 hnot
    have hfields : 3 ≤ room - 1 := by omega
    have hshape : SucceedsIff
        (ofPayload (room - 1) (.entries (Value.entryTrees shape.toEntries)) shape.kind)
        (∀ entry ∈ shape.toEntries, entry.2.depth ≤ room - 1) (shape.toValue.Keeps shape) := by
      refine (succeedsIff_ofPayload hfields shape hregular.2.2).imp fun again hkeeps hsame => ?_
      rw [toValue, Value.reread_object_eq_self_iff, List.forall_mem_cons] at hsame
      exact hkeeps (Value.reread_object_eq_self_iff.mpr hsame.2)
    have hboth : SucceedsIff (reader room shape.toValue.toTree)
        (shape.toValue.depth ≤ room ∧ ∀ entry ∈ shape.toEntries, entry.2.depth ≤ room - 1)
        (shape.toValue.Keeps shape) := by
      refine SucceedsIff.bind hsplit ?_
      rintro parts rfl
      exact hshape
    refine hboth.congr ?_
    rw [hdepth, ← Value.depthEntries_le_iff]
    omega

end Shape

theorem Document.readsBack {room : Nat} (hroom : 6 ≤ room) :
    Document.reader.ReadsBack Document.toValue room := by
  have hshapes : Shape.reader.ReadsBack Shape.toValue (room - 1 - 1) := Shape.readsBack (by omega)
  have hfields : Document.record.fields.ReadBack (room - 1) _ :=
    .cons readsBack_optionalText <|
    .cons (.defaulted hshapes.orderedMap (within_emptyObject (by omega)) fun _ => Or.inl rfl) <|
    .cons (.defaulted readsBack_values (within_emptyObject (by omega)) fun _ => Or.inl rfl) .nil
  refine (Record.readsBack hfields (by decide)).map ?_ ?_
  · rintro ⟨smithy, shapes, metadata, ⟨⟩⟩
    rfl
  · rintro ⟨smithy, shapes, metadata⟩
    exact ⟨(smithy, shapes, metadata, ()), rfl⟩

def Document.write (layout : Json.Layout) (document : Document) : String :=
  document.toValue.write layout

theorem Document.ofText_write_of_ofText {text : String} {document : Document}
    (h : Document.ofText text = .ok document) (hfree : document.toValue.isDoubleFree = true)
    (layout : Json.Layout) : Document.ofText (document.write layout) = .ok document := by
  have hreads : Document.reader.ReadsBack Document.toValue Json.maxOpen :=
    Document.readsBack (by decide)
  obtain ⟨again, hagain, hkeeps⟩ := hreads.exists_reread layout h
  have hexact := (hreads.within_of_ofText h).isExact hfree
  rwa [hkeeps (Value.reread_of_isExact _ hexact)] at hagain

/-- However a text spells a document, if no number in its annotations and metadata is a double, its
own text is read as the same document, and written once more it stays as it is. -/
theorem Model.roundTrip_of_doubleFree {shortName text : String} {model : Model}
    (h : Model.ofText shortName text = .ok model)
    (hfree : model.document.toValue.isDoubleFree = true) (layout : Json.Layout) :
    Model.ofText shortName (model.document.write layout) = .ok model ∧
      (Model.ofText shortName (model.document.write layout)).map
          (fun reread => reread.document.write layout) = .ok (model.document.write layout) := by
  have hread : Model.ofText shortName (model.document.write layout) = .ok model := by
    rw [Model.ofText] at h
    split at h
    · next document hdocument =>
        obtain rfl := Except.ok.inj h
        rw [Model.ofText, Document.ofText_write_of_ofText hdocument hfree layout]
    · cases h
  exact ⟨hread, by rw [hread]; rfl⟩

namespace Library

/-- A document with a service whose tag comes last, after a field that no service has, and with an
operation that is written as an array, as is the reference to its input. -/
def spelling : Value :=
  .object [("shapes", .object [
    ("n#Library", .object [
      ("traits", .object [("b", .number (.integer 3)), ("a", .string "A \"list\".")]),
      ("owner", .null),
      ("version", .string "1"),
      ("type", .string "service")]),
    ("n#Ping", .array [.string "operation", .array [.string "n#PingInput"]])])]

def spelled : Model where
  shortName := "lib"
  document := {
    smithy := none
    shapes := ⟨[
      ("n#Library", .service ⟨"1", [], [], [],
        ⟨[("a", .string "A \"list\"."), ("b", .number (.integer 3))], by decide⟩⟩),
      ("n#Ping", .operation
        ⟨some ⟨"n#PingInput", SortedMap.empty⟩, none, [], SortedMap.empty⟩)], by decide⟩
    metadata := SortedMap.empty }

theorem ofText_spelling : Model.ofText "lib" (spelling.write .pretty) = .ok spelled := by
  have hread : Document.ofText (spelling.write .pretty) = .ok spelled.document := by
    rw [Document.ofText, Reader.ofText_write Document.reader .pretty]
    rfl
  rw [Model.ofText, hread]
  rfl

/-- The document keeps through its own text, and is not spelled in it as it was before. -/
theorem roundTrip_spelled :
    Model.ofText "lib" (spelling.write .pretty) = .ok spelled ∧
      spelled.document.toValue.isDoubleFree = true ∧ spelled.document.toValue ≠ spelling ∧
      Model.ofText "lib" (spelled.document.write .compact) = .ok spelled ∧
      (Model.ofText "lib" (spelled.document.write .pretty)).map
          (fun reread => reread.document.write .pretty) = .ok (spelled.document.write .pretty) := by
  have hfree : spelled.document.toValue.isDoubleFree = true := by decide
  have hcompact := Model.roundTrip_of_doubleFree ofText_spelling hfree .compact
  have hpretty := Model.roundTrip_of_doubleFree ofText_spelling hfree .pretty
  exact ⟨ofText_spelling, hfree, by decide, hcompact.1, hpretty.2⟩

end Library

end ShapeCatalog
