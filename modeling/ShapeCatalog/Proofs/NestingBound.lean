import ShapeCatalog.Proofs.ExactValues
import ShapeCatalog.Proofs.OpenFrames
import ShapeCatalog.Proofs.ValueReferences

/-!
How deep examples nest.  A container in an example stands for a structure, a list, a set or a map
that is not on the path, and puts it there for all that it holds; what is made for a key may come
back to the path, but only its text is kept.  So an example nests no deeper than the document has
such shapes, up to what an enumeration declares.
-/

namespace ShapeCatalog

open Json (Value)

/-- Whether examples of the shapes of a kind hold examples of other shapes. -/
def Kind.isContainer : Kind → Bool
  | .struct | .list | .set | .map => true
  | .service | .resource | .operation | .union | .enum | .intEnum | .simple _ => false

def Shape.declaredValue? : Shape → Option Value
  | .enum shape | .intEnum shape => Example.declaredValue? shape
  | _ => none

namespace Document

/-- The number of structures, lists, sets and maps of a document. -/
def containerCount (document : Document) : Nat :=
  document.shapes.entries.countP fun entry => entry.2.kind.isContainer

/-- The greatest depth of a value that the first member of an enumeration declares. -/
def declaredDepth (document : Document) : Nat :=
  Value.depthItems (document.shapes.entries.filterMap fun entry => entry.2.declaredValue?)

def containerIds (document : Document) : Finset String :=
  (Entries.keys (document.shapes.entries.filter fun entry => entry.2.kind.isContainer)).toFinset

/-- How deep an example nests at most below the shapes of a path: one level for each container that
is not on the path, and the depth of what stands at the bottom. -/
def nestingBound (document : Document) (path : Finset String) : Nat :=
  (document.containerIds \ path).card + max 1 document.declaredDepth

variable {document : Document} {path : Finset String} {id name : String} {value : Value}
  {hkeys : document.KeysAcyclic}

theorem card_containerIds_le (document : Document) :
    document.containerIds.card ≤ document.containerCount := by
  apply Nat.le_trans (List.toFinset_card_le _)
  rw [Entries.keys, List.length_map, containerCount, List.countP_eq_length_filter]

theorem mem_containerIds {shape : Shape} (hshape : document.resolveValue id = .ok shape)
    (hcontainer : shape.kind.isContainer = true) : id ∈ document.containerIds := by
  rw [containerIds, List.mem_toFinset]
  rcases lookup_cases (lookup_of_resolveValue hshape).1 with ⟨kind, -, rfl⟩ | ⟨-, hmem⟩
  · cases hcontainer
  · exact List.mem_map_of_mem (List.mem_filter.mpr ⟨hmem, hcontainer⟩)

/-- A container that is not on the path takes one level. -/
theorem nestingBound_insert {shape : Shape} (hshape : document.resolveValue id = .ok shape)
    (hcontainer : shape.kind.isContainer = true) (hnew : id ∉ path) :
    document.nestingBound (insert id path) + 1 = document.nestingBound path := by
  have hmem : id ∈ document.containerIds \ path :=
    Finset.mem_sdiff.mpr ⟨mem_containerIds hshape hcontainer, hnew⟩
  have hcard := Finset.card_erase_add_one hmem
  rw [nestingBound, nestingBound, Finset.sdiff_insert]
  omega

theorem nestingBound_insert_le (document : Document) (path : Finset String) (id : String) :
    document.nestingBound (insert id path) ≤ document.nestingBound path := by
  have hcard : (document.containerIds \ insert id path).card
      ≤ (document.containerIds \ path).card :=
    Finset.card_le_card
      (Finset.sdiff_subset_sdiff (Finset.Subset.refl _) (Finset.subset_insert _ _))
  rw [nestingBound, nestingBound]
  omega

theorem one_le_nestingBound (document : Document) (path : Finset String) :
    1 ≤ document.nestingBound path := by
  rw [nestingBound]
  omega

theorem depth_declared_le {shape : Shape} (hshape : document.resolveValue id = .ok shape)
    (hdeclared : shape.declaredValue? = some value) : value.depth ≤ document.nestingBound path := by
  have hdepth : value.depth ≤ document.declaredDepth := by
    apply Value.depthItems_le_iff.mp (Nat.le_refl _)
    rcases lookup_cases (lookup_of_resolveValue hshape).1 with ⟨kind, -, rfl⟩ | ⟨-, hmem⟩
    · cases hdeclared
    · exact List.mem_filterMap.mpr ⟨_, hmem, hdeclared⟩
  rw [nestingBound]
  omega

theorem depth_ofSimple_le (name : String) (kind : SimpleKind) :
    (Example.ofSimple name kind).depth ≤ 1 := by
  cases kind <;> simp [Example.ofSimple, Example.number, Example.timestamp, Example.emptyObject,
    Value.depth, Value.depthEntries]

/-- Below the shapes of a path, a shape that is not on it nests no deeper than the rest of
the containers. -/
theorem depth_exampleBelow_le (hnew : id ∉ path)
    (h : document.exampleBelow hkeys path id name = .ok value) :
    value.depth ≤ document.nestingBound path := by
  fun_induction document.exampleBelow hkeys path id name generalizing value
  case case1 error herror => cases h
  case case2 path id name struct hstruct ih =>
    obtain ⟨entries, hentries, heq⟩ := bind_eq_ok.mp h
    obtain rfl := pure_eq_ok.mp heq
    rw [Value.depth, ← nestingBound_insert hstruct rfl hnew, Nat.add_le_add_iff_right,
      Value.depthEntries_le_iff]
    intro entry hentry
    obtain ⟨⟨member, ref⟩, -, hmember⟩ := exists_item_of_filterMapM hentries hentry
    obtain ⟨target, -, hfull⟩ := bind_eq_ok.mp hmember
    split at hfull
    · cases hfull
    · next hnotin =>
        obtain ⟨inner, hinner, hpair⟩ := bind_eq_ok.mp hfull
        obtain rfl := Option.some.inj (pure_eq_ok.mp hpair)
        exact ih member ref hnotin hnotin hinner
  case case3 path id name shape hshape hnone =>
    obtain rfl := pure_eq_ok.mp h
    exact document.one_le_nestingBound path
  case case4 path id name shape hshape member ref hfirst ih =>
    obtain ⟨target, -, hfull⟩ := bind_eq_ok.mp h
    split at hfull
    · obtain rfl := pure_eq_ok.mp hfull
      exact document.one_le_nestingBound path
    · next hnotin =>
        exact Nat.le_trans (ih hnotin hnotin hfull) (document.nestingBound_insert_le path id)
  case case5 path id name shape hshape ih | case6 path id name shape hshape ih =>
    obtain ⟨target, -, hfull⟩ := bind_eq_ok.mp h
    split at hfull
    · obtain rfl := pure_eq_ok.mp hfull
      exact document.one_le_nestingBound path
    · next hnotin =>
        obtain ⟨item, hitem, heq⟩ := bind_eq_ok.mp hfull
        obtain rfl := pure_eq_ok.mp heq
        rw [Value.depth, ← nestingBound_insert hshape rfl hnew, Nat.add_le_add_iff_right,
          Value.depthItems_le_iff, List.forall_mem_singleton]
        exact ih hnotin hnotin hitem
  case case7 path id name shape hshape ihkey ihvalue =>
    obtain ⟨keyTarget, -, h⟩ := bind_eq_ok.mp h
    obtain ⟨target, -, hfull⟩ := bind_eq_ok.mp h
    split at hfull
    · obtain rfl := pure_eq_ok.mp hfull
      exact document.one_le_nestingBound path
    · next hnotin =>
        -- What the key nests does not count, since only its text is kept.
        obtain ⟨key, -, hrest⟩ := bind_eq_ok.mp hfull
        obtain ⟨item, hitem, heq⟩ := bind_eq_ok.mp hrest
        obtain rfl := pure_eq_ok.mp heq
        rw [Value.depth, ← nestingBound_insert hshape rfl hnew, Nat.add_le_add_iff_right,
          Value.depthEntries_le_iff, List.forall_mem_singleton]
        exact ihvalue hnotin hnotin hitem
  case case8 path id name shape hshape | case9 path id name shape hshape =>
    obtain rfl := pure_eq_ok.mp h
    cases hdeclared : Example.declaredValue? shape with
    | none => exact Nat.zero_le _
    | some declared => exact depth_declared_le hshape hdeclared
  case case10 path id name kind traits hshape =>
    obtain rfl := pure_eq_ok.mp h
    exact Nat.le_trans (depth_ofSimple_le name kind) (document.one_le_nestingBound path)
  case case11 | case12 | case13 => cases h

end Document

namespace Example

variable {document : Document} {first : Frame} {frames : List Frame}

/-- A frame opens another for what its example holds, and not only for a key. -/
def OpensContent (document : Document) (frame next : Frame) : Prop :=
  Opens document frame next ∧ document.ContentStep frame.id next.id

theorem OpensContent.not_mem_held {frame next : Frame} (h : OpensContent document frame next) :
    next.id ∉ frame.held := by
  obtain ⟨hopens, hcontent⟩ := h
  cases hopens with
  | key hshape hnew =>
      -- A key that is opened for contents is the value of its map too.
      obtain heq := List.mem_singleton.mp ((Document.contentStep_iff hshape).mp hcontent)
      exact fun hmem => hnew (heq ▸ hmem)
  | member _ _ hnew | variant _ _ hnew | element _ hnew | value _ hnew => exact hnew

/-- Frames opened for contents one by the other are all new to what the first one holds active. -/
theorem not_mem_held_of_chain (h : List.IsChain (OpensContent document) (first :: frames)) :
    ∀ frame ∈ frames, frame.id ∉ first.held := by
  induction frames generalizing first with
  | nil => simp
  | cons next rest ih =>
      obtain ⟨hopens, hrest⟩ := List.isChain_cons_cons.mp h
      rw [List.forall_mem_cons]
      refine ⟨hopens.not_mem_held, ?_⟩
      intro frame hframe hmem
      apply ih hrest frame hframe
      rw [Frame.held, mem_held, hopens.1.active_eq]
      exact Or.inr hmem

theorem nodup_ids_of_chain (h : List.IsChain (OpensContent document) (first :: frames)) :
    ((first :: frames).map Frame.id).Nodup := by
  induction frames generalizing first with
  | nil => simp
  | cons next rest ih =>
      rw [List.map_cons, List.nodup_cons]
      refine ⟨?_, ih (List.isChain_cons_cons.mp h).2⟩
      intro hmem
      obtain ⟨frame, hframe, heq⟩ := List.mem_map.mp hmem
      apply not_mem_held_of_chain h frame hframe
      rw [Frame.held, mem_held]
      exact Or.inl heq

end Example

/-- No shape is expanded inside itself: the shapes that are opened one for the contents of the other
are pairwise different, whatever leads back to what.  So an example nests no deeper than the
document has structures, lists, sets and maps, and one level more, or as many as the deepest value
has that an enumeration declares for its first member. -/
theorem Document.depth_exemplify_le (document : Document) (hkeys : document.KeysAcyclic)
    (id name : String) :
    (∀ frames, List.IsChain (Example.OpensContent document) (⟨[], id, name⟩ :: frames) →
      ((⟨[], id, name⟩ :: frames).map Example.Frame.id).Nodup) ∧
    ∀ value, ((document.exemplify id name).run []).1 = .ok value →
      value.depth ≤ document.containerCount + max 1 document.declaredDepth := by
  refine ⟨fun _ hchain => Example.nodup_ids_of_chain hchain, ?_⟩
  intro value hvalue
  rw [outcome_exemplify hkeys] at hvalue
  have hdepth := depth_exampleBelow_le (Finset.notMem_empty id) hvalue
  rw [nestingBound, Finset.sdiff_empty] at hdepth
  have hcard := document.card_containerIds_le
  omega

namespace Example.Nested

/-- Five shapes that lead back to the first through the key of a map, around a value that an
enumeration declares. -/
def document : Document where
  smithy := none
  shapes := ⟨[
    ("a#Tree", .struct ⟨⟨[("rows", .bare "a#Rows")], by decide⟩, SortedMap.empty⟩),
    ("a#Rows", .list ⟨.bare "a#Row", SortedMap.empty⟩),
    ("a#Row", .union ⟨⟨[("index", .bare "a#Index"), ("tree", .bare "a#Tree")], by decide⟩,
      SortedMap.empty⟩),
    ("a#Index", .map ⟨.bare "a#Tree", .bare "a#Cell", SortedMap.empty⟩),
    ("a#Cell", .enum ⟨⟨[("FULL", ⟨"smithy.api#Unit",
      ⟨[(Trait.enumValue, .array [.object [("full", .array [])]])], by decide⟩⟩)], by decide⟩,
      SortedMap.empty⟩)], by decide⟩
  metadata := SortedMap.empty

theorem keysAcyclic_document : document.KeysAcyclic := by
  apply Document.keysAcyclic_of_height fun id => if id = "a#Index" then 1 else 0
  decide

/-- The bound is met: three containers, and the declared value at the bottom. -/
theorem depth_exemplify_tree :
    document.KeysAcyclic ∧
      ((document.exemplify "a#Tree" "root").run []).1 = .ok (.object [("rows",
        .array [.object [("\x7b\x7d", .array [.object [("full", .array [])]])]])]) ∧
      (∀ value, ((document.exemplify "a#Tree" "root").run []).1 = .ok value → value.depth ≤ 6) ∧
      document.containerCount + max 1 document.declaredDepth = 6 := by
  have hdepth := (document.depth_exemplify_le keysAcyclic_document "a#Tree" "root").2
  exact ⟨keysAcyclic_document, rfl, hdepth, rfl⟩

end Example.Nested

end ShapeCatalog
