import ShapeCatalog.Proofs.DocumentRoundTrip
import ShapeCatalog.Proofs.UnnoticedEdits

/-!
Edits of documents that are not noticed.  In every record of a document that is written as an
object, in its shapes wherever their tags stand, and in the references of its shapes, the order
of the fields and the fields that are not known do not matter.  Shapes, members and identifiers
keep their order.
-/

namespace ShapeCatalog

open Json (Edit Fields Reader Record Tree Value)
open Json.Edit (keep)
open Json.Reader (ignores_keep)

namespace ShapeRef

def edit : Edit :=
  .record [("target", keep), ("traits", keep)]

theorem ignores : ShapeRef.reader.Ignores ShapeRef.edit := by
  have hfields : ShapeRef.record.fields.Ignore [("target", keep), ("traits", keep)] :=
    .cons (ignores_keep _) <| .cons (ignores_keep _) .nil
  exact (Record.ignores hfields (by decide)).map _

theorem keepsValues_edit : ShapeRef.edit.KeepsValues := by
  refine Edit.keepsValues_record ?_
  simp [Edit.keepsValues_keep]

end ShapeRef

namespace Shape

def fieldEdits : Kind → Entries Edit
  | .service =>
      [("version", keep), ("operations", .items ShapeRef.edit), ("resources", .items ShapeRef.edit),
       ("errors", .items ShapeRef.edit), ("traits", keep)]
  | .resource =>
      [("identifiers", .values ShapeRef.edit), ("create", .optional ShapeRef.edit),
       ("put", .optional ShapeRef.edit), ("read", .optional ShapeRef.edit),
       ("update", .optional ShapeRef.edit), ("delete", .optional ShapeRef.edit),
       ("list", .optional ShapeRef.edit), ("operations", .items ShapeRef.edit),
       ("collectionOperations", .items ShapeRef.edit), ("resources", .items ShapeRef.edit),
       ("traits", keep)]
  | .operation =>
      [("input", .optional ShapeRef.edit), ("output", .optional ShapeRef.edit),
       ("errors", .items ShapeRef.edit), ("traits", keep)]
  | .struct | .union | .enum | .intEnum => [("members", .values ShapeRef.edit), ("traits", keep)]
  | .list | .set => [("member", ShapeRef.edit), ("traits", keep)]
  | .map => [("key", ShapeRef.edit), ("value", ShapeRef.edit), ("traits", keep)]
  | .simple _ => [("traits", keep)]

def edit : Edit :=
  .tagged choice fieldEdits

theorem field_not_mem_keys (kind : Kind) : choice.field ∉ Entries.keys (fieldEdits kind) := by
  cases kind <;> simp [fieldEdits, choice, Entries.keys]

theorem keepsValues_fieldEdits (kind : Kind) : ∀ field ∈ fieldEdits kind, field.2.KeepsValues := by
  have href := ShapeRef.keepsValues_edit
  cases kind <;>
    simp [fieldEdits, Edit.keepsValues_keep, href, href.items, href.values, href.optional]

theorem ignore_service : ServiceShape.record.fields.Ignore (fieldEdits .service) :=
  .cons (ignores_keep _) <| .cons ShapeRef.ignores.list <| .cons ShapeRef.ignores.list <|
  .cons ShapeRef.ignores.list <| .cons (ignores_keep _) .nil

theorem ignore_resource : ResourceShape.record.fields.Ignore (fieldEdits .resource) :=
  .cons ShapeRef.ignores.orderedMap <| .cons ShapeRef.ignores.optional <|
  .cons ShapeRef.ignores.optional <| .cons ShapeRef.ignores.optional <|
  .cons ShapeRef.ignores.optional <| .cons ShapeRef.ignores.optional <|
  .cons ShapeRef.ignores.optional <| .cons ShapeRef.ignores.list <|
  .cons ShapeRef.ignores.list <| .cons ShapeRef.ignores.list <| .cons (ignores_keep _) .nil

theorem ignore_operation : OperationShape.record.fields.Ignore (fieldEdits .operation) :=
  .cons ShapeRef.ignores.optional <| .cons ShapeRef.ignores.optional <|
  .cons ShapeRef.ignores.list <| .cons (ignores_keep _) .nil

theorem ignore_members (name : String) :
    (MembersShape.record name).fields.Ignore (fieldEdits .struct) :=
  .cons ShapeRef.ignores.orderedMap <| .cons (ignores_keep _) .nil

theorem ignore_list : ListShape.record.fields.Ignore (fieldEdits .list) :=
  .cons ShapeRef.ignores <| .cons (ignores_keep _) .nil

theorem ignore_map : MapShape.record.fields.Ignore (fieldEdits .map) :=
  .cons ShapeRef.ignores <| .cons ShapeRef.ignores <| .cons (ignores_keep _) .nil

theorem ignore_simple (kind : SimpleKind) :
    SimpleKind.record.fields.Ignore (fieldEdits (.simple kind)) :=
  .cons (ignores_keep _) .nil

/-- Whatever kind a shape is of, its fields are read as they were before. -/
theorem ofPayload_of_edited {room : Nat} {kind : Kind} {payload payload' : Json.Payload}
    {shape : Shape} (hedited : payload.Edited (fieldEdits kind) room payload')
    (h : ofPayload room payload kind = .ok shape) : ofPayload room payload' kind = .ok shape := by
  cases kind with
  | service =>
      obtain ⟨values, hvalues, rfl⟩ := map_eq_ok.mp h
      have hread := Record.ofPayload_of_edited ignore_service (by decide) hedited hvalues
      exact map_eq_ok.mpr ⟨values, hread, rfl⟩
  | resource =>
      obtain ⟨values, hvalues, rfl⟩ := map_eq_ok.mp h
      have hread := Record.ofPayload_of_edited ignore_resource (by decide) hedited hvalues
      exact map_eq_ok.mpr ⟨values, hread, rfl⟩
  | operation =>
      obtain ⟨values, hvalues, rfl⟩ := map_eq_ok.mp h
      have hread := Record.ofPayload_of_edited ignore_operation (by decide) hedited hvalues
      exact map_eq_ok.mpr ⟨values, hread, rfl⟩
  | map =>
      obtain ⟨values, hvalues, rfl⟩ := map_eq_ok.mp h
      have hread := Record.ofPayload_of_edited ignore_map (by decide) hedited hvalues
      exact map_eq_ok.mpr ⟨values, hread, rfl⟩
  | simple kind =>
      obtain ⟨values, hvalues, rfl⟩ := map_eq_ok.mp h
      have hread := Record.ofPayload_of_edited (ignore_simple kind) (by decide) hedited hvalues
      exact map_eq_ok.mpr ⟨values, hread, rfl⟩
  | list | set =>
      obtain ⟨_, hshape, rfl⟩ := map_eq_ok.mp h
      obtain ⟨values, hvalues, rfl⟩ := map_eq_ok.mp hshape
      have hread := Record.ofPayload_of_edited ignore_list (by decide) hedited hvalues
      exact map_eq_ok.mpr ⟨_, map_eq_ok.mpr ⟨values, hread, rfl⟩, rfl⟩
  | struct | union | enum | intEnum =>
      obtain ⟨_, hshape, rfl⟩ := map_eq_ok.mp h
      obtain ⟨values, hvalues, rfl⟩ := map_eq_ok.mp hshape
      have hread := Record.ofPayload_of_edited (ignore_members _)
        (MembersShape.nodup_names _) hedited hvalues
      exact map_eq_ok.mpr ⟨_, map_eq_ok.mpr ⟨values, hread, rfl⟩, rfl⟩

theorem ignores : Shape.reader.Ignores Shape.edit :=
  Json.Choice.ignores field_not_mem_keys keepsValues_fieldEdits ofPayload_of_edited

end Shape

namespace Document

def edit : Edit :=
  .record [("smithy", keep), ("shapes", .values Shape.edit), ("metadata", keep)]

theorem ignores : Document.reader.Ignores Document.edit := by
  have hfields : Document.record.fields.Ignore
      [("smithy", keep), ("shapes", .values Shape.edit), ("metadata", keep)] :=
    .cons (ignores_keep _) <| .cons Shape.ignores.orderedMap <| .cons (ignores_keep _) .nil
  exact (Record.ignores hfields (by decide)).map _

/-- Only texts that keep to the grammar are read as documents. -/
theorem exists_spelledBy {text : String} {document : Document}
    (h : Document.ofText text = .ok document) : ∃ tree : Tree, tree.SpelledBy text := by
  obtain ⟨hread, hended⟩ := Json.Reader.ofText_eq_ok.mp h
  obtain ⟨values, hvalues, -⟩ := map_eq_ok.mp hread
  exact ⟨_, Tree.spelledBy_of_isClosed (Record.isClosed_of_reader hvalues) hended⟩

/-- A text that is read as a document spells a tree, and every text that spells the tree with fields
of its records in another order, and with unknown fields inserted and deleted, at every level at
once, is read as the same document. -/
theorem ofText_of_edited {text : String} {document : Document}
    (h : Document.ofText text = .ok document) :
    (∃ tree : Tree, tree.SpelledBy text) ∧ ∀ (tree tree' : Tree) (text' : String),
      tree.SpelledBy text → Document.edit Json.maxOpen tree tree' → tree'.SpelledBy text' →
        Document.ofText text' = .ok document := by
  refine ⟨exists_spelledBy h, ?_⟩
  intro tree tree' text' hspelled hedited hspelled'
  exact Document.ignores.ofText hspelled hedited hspelled' h

end Document

namespace Library

/-- A reference, and the same reference with an unknown field between its own. -/
def plainRef : Value :=
  .object [("target", .string "smithy.api#String"), ("traits", .object [])]

def annotatedRef : Value :=
  .object [("target", .string "smithy.api#String"), ("from", .object [("target", .null)]),
    ("traits", .object [])]

/-- A structure with its tag last, and the same structure with its tag first among
its own fields. -/
def plainNote : Value :=
  .object [("hint", .bool true), ("members", .object [("text", plainRef)]),
    ("type", .string "structure")]

def annotatedNote : Value :=
  .object [("mixins", .array []), ("type", .string "structure"),
    ("members", .object [("text", annotatedRef)])]

def plain : Value :=
  .object [("shapes", .object [("n#Note", plainNote)]), ("smithy", .string "2.0")]

def annotated : Value :=
  .object [("smithy", .string "2.0"), ("$version", .array [.null]),
    ("shapes", .object [("n#Note", annotatedNote)])]

def noteDocument : Document where
  smithy := "2.0"
  shapes := ⟨[("n#Note", .struct ⟨⟨[("text", ⟨"smithy.api#String", SortedMap.empty⟩)], by decide⟩,
    SortedMap.empty⟩)], by decide⟩
  metadata := SortedMap.empty

theorem edit_plainRef : ShapeRef.edit 123 plainRef.toTree annotatedRef.toTree := by
  refine .object (.trans (.insert ?_ rfl) (.reorder (.swap _ _ _)))
  decide

theorem edit_plainNote : Shape.edit 125 plainNote.toTree annotatedNote.toTree := by
  have hmembers : Edit.values ShapeRef.edit 124 (.object [(some "text", plainRef.toTree)] true)
      (.object [(some "text", annotatedRef.toTree)] true) :=
    .object (.cons ⟨rfl, edit_plainRef⟩ .nil)
  have htag : ∀ key ∈ ["hint", "mixins"],
      key ∉ Entries.keys ((Shape.choice.field, keep) :: Shape.fieldEdits .struct) := by decide
  refine .object (.tail _ (.tail _ (.head _))) rfl ?_
  refine .trans (.delete (htag _ (by decide))) (.trans (.change ?_ hmembers) ?_)
  · exact .tail _ (.head _)
  · exact .trans (.reorder (.swap _ _ _)) (.insert (htag _ (by decide)) rfl)

theorem edit_plain : Document.edit Json.maxOpen plain.toTree annotated.toTree := by
  have hshapes : Edit.values Shape.edit 126 (.object [(some "n#Note", plainNote.toTree)] true)
      (.object [(some "n#Note", annotatedNote.toTree)] true) :=
    .object (.cons ⟨rfl, edit_plainNote⟩ .nil)
  refine .object (.trans (.change ?_ hshapes) (.trans (.reorder (.swap _ _ _)) ?_))
  · exact .tail _ (.head _)
  · refine .trans (.insert ?_ rfl) (.reorder (.swap _ _ _))
    decide

theorem ofText_annotated :
    Document.ofText (plain.write .compact) = .ok noteDocument ∧
      Document.edit Json.maxOpen plain.toTree annotated.toTree ∧
      Document.ofText (annotated.write .pretty) = .ok noteDocument := by
  have hread : Document.ofText (plain.write .compact) = .ok noteDocument := by
    rw [Document.ofText, Reader.ofText_write Document.reader .compact]
    rfl
  have hspelled := Value.spelledBy_write .compact plain
  have hspelled' := Value.spelledBy_write .pretty annotated
  exact ⟨hread, edit_plain,
    (Document.ofText_of_edited hread).2 _ _ _ hspelled edit_plain hspelled'⟩

end Library

end ShapeCatalog
