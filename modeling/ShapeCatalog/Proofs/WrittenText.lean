import ShapeCatalog.Proofs.ExactValues
import ShapeCatalog.Proofs.WrittenScalars

/-!
Texts of values.  What a value is written as spells its tree, in either layout.  So the text of the
value has that tree, and nothing follows it.
-/

namespace ShapeCatalog.Json

theorem isBlank_lineBreak (layout : Layout) (depth : Nat) : IsBlank (layout.lineBreak depth) := by
  cases layout with
  | compact => exact List.forall_mem_nil _
  | pretty =>
      intro c hc
      rcases List.mem_cons.mp hc with rfl | hc
      · rfl
      · rw [List.eq_of_mem_replicate hc]
        rfl

/-- A key with its value, and the spacing around them. -/
theorem spellsEntry_render (layout : Layout) {before text after : List Char} (key : String)
    {tree : Tree} (hbefore : IsBlank before) (htree : SpellsTree tree text)
    (hafter : IsBlank after) :
    SpellsEntry (some key, tree)
      (before ++ (renderString key ++ (layout.colon ++ (text ++ after)))) := by
  have hkey := spellsString_renderString key
  have hnone : IsBlank [] := List.forall_mem_nil _
  cases layout with
  | compact => exact .intro hbefore hkey hnone (.intro hnone htree hafter)
  | pretty =>
      have hblank : IsBlank [' '] := List.forall_mem_singleton.mpr rfl
      exact .intro hbefore hkey hnone (.intro hblank htree hafter)

namespace Value

-- The writer puts the comma and the break in front of every item but the first.  So the statements
-- about lists start after the first item.
mutual

/-- What a value is written as spells its tree. -/
theorem spells_render (layout : Layout) (depth : Nat) (value : Value) :
    SpellsTree value.toTree (value.render layout depth) := by
  match value with
  | .null => exact .null
  | .bool true => exact .boolTrue
  | .bool false => exact .boolFalse
  | .number value => exact .number value.spellsNumber_render
  | .string value => exact .string (spellsString_renderString value)
  | .array [] => exact .emptyArray (List.forall_mem_nil _)
  | .array (item :: others) =>
      have hitems := spells_renderItems layout depth others
        (spells_render layout (depth + 1) item)
      simpa [toTree, itemTrees, render] using SpellsTree.array hitems
  | .object [] => exact .emptyObject (List.forall_mem_nil _)
  | .object ((key, first) :: others) =>
      have hentries := spells_renderEntries layout depth key others
        (spells_render layout (depth + 1) first)
      simpa [toTree, entryTrees, render] using SpellsTree.object hentries

/-- The items after the first, up to the closing bracket. -/
theorem spells_renderItems (layout : Layout) (depth : Nat) {text : List Char} {first : Tree}
    (others : List Value) (hfirst : SpellsTree first text) :
    SpellsItems (first :: itemTrees others) (layout.lineBreak (depth + 1) ++ (text ++
      (renderItems layout (depth + 1) others ++ layout.lineBreak depth))) := by
  have hbreak := isBlank_lineBreak layout
  match others with
  | [] => exact .last (.intro (hbreak _) hfirst (hbreak depth))
  | item :: others =>
      have hitems := spells_renderItems layout depth others
        (spells_render layout (depth + 1) item)
      have hpadded : SpellsPadded first _ :=
        .intro (hbreak (depth + 1)) hfirst (List.forall_mem_nil _)
      simpa [itemTrees, renderItems] using SpellsItems.cons hpadded hitems

/-- The entries after the first, up to the closing bracket. -/
theorem spells_renderEntries (layout : Layout) (depth : Nat) (key : String) {text : List Char}
    {first : Tree} (others : List (String × Value)) (hfirst : SpellsTree first text) :
    SpellsEntries ((some key, first) :: entryTrees others) (layout.lineBreak (depth + 1) ++
      (renderString key ++ (layout.colon ++ (text ++
        (renderEntries layout (depth + 1) others ++ layout.lineBreak depth))))) := by
  have hbreak := isBlank_lineBreak layout
  match others with
  | [] => exact .last (spellsEntry_render layout key (hbreak _) hfirst (hbreak depth))
  | (other, value) :: others =>
      have hentries := spells_renderEntries layout depth other others
        (spells_render layout (depth + 1) value)
      have hentry := spellsEntry_render layout key (hbreak (depth + 1)) hfirst
        (List.forall_mem_nil _)
      simpa [entryTrees, renderEntries] using SpellsEntries.cons hentry hentries

end

theorem spelledBy_write (layout : Layout) (value : Value) :
    value.toTree.SpelledBy (value.write layout) := by
  have hspells : SpellsPadded value.toTree _ :=
    .intro (List.forall_mem_nil _) (spells_render layout 0 value) (List.forall_mem_nil _)
  rw [Tree.SpelledBy, write, String.toList_ofList]
  rwa [List.append_nil] at hspells

/-- The text of a value has the tree of that value, and nothing follows it. -/
theorem ofText_write (layout : Layout) (value : Value) :
    Tree.ofText (value.write layout) = (value.toTree, true) :=
  Tree.ofText_of_spelledBy (spelledBy_write layout value)

end Value

end ShapeCatalog.Json
