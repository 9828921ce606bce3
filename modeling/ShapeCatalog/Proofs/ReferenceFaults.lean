import ShapeCatalog.Proofs.ActiveIds
import ShapeCatalog.Proofs.ValueReferences

/-!
Which references decide whether a shape has an example.  It has one if all that is met from it
describes values.  It has none if something does not that is met through contents: a walk
through contents that does not cross itself is followed to its end, so that only the keys of
maps can be missed.
-/

namespace ShapeCatalog

open Relation
open Json (Value)

theorem Kind.mem_of_not_isValue {kind : Kind} (h : kind.isValue = false) :
    kind ∈ [Kind.service, .resource, .operation] := by
  cases kind <;> simp [isValue] at h ⊢

namespace Document

variable {document : Document} {path : Finset String} {id next name : String} {value : Value}
  {hkeys : document.KeysAcyclic}

/-- A reference that was followed describes a value, and what it leads to has a value if it was
not on the path. -/
theorem of_follow_eq_ok {α : Type} {cut full : Except CatalogError α} {result : α}
    (h : (document.resolveValue next >>= fun _ => if _h : next ∈ path then cut else full)
      = .ok result) :
    document.DescribesValue next ∧ (next ∉ path → full = .ok result) := by
  obtain ⟨shape, hshape, hfull⟩ := bind_eq_ok.mp h
  refine ⟨describesValue_iff.mpr ⟨shape, hshape⟩, ?_⟩
  intro hnew
  rwa [dif_neg hnew] at hfull

/-- Where a shape has an example, its contents describe values, and those that are new to the path
have examples too. -/
theorem contents_of_exampleBelow {shape : Shape} (hshape : document.resolveValue id = .ok shape)
    (h : document.exampleBelow hkeys path id name = .ok value) :
    ∀ next ∈ shape.contents, document.DescribesValue next ∧ (next ∉ insert id path →
      ∃ label inner, document.exampleBelow hkeys (insert id path) next label = .ok inner) := by
  revert h
  fun_cases document.exampleBelow hkeys path id name
  case case1 error herror => simp
  case case2 struct hstruct =>
    obtain rfl := eq_of_resolveValue hstruct hshape
    intro h next hnext
    obtain ⟨⟨member, ref⟩, hmem, rfl⟩ := List.mem_map.mp hnext
    obtain ⟨entries, hentries, -⟩ := bind_eq_ok.mp h
    obtain ⟨found, hfound, -⟩ := filterMapM_eq_ok.mp hentries
    obtain ⟨kept?, -, hkept⟩ := exists_left_of_forall₂ hfound.flip hmem
    obtain ⟨hvalue, hfull⟩ := of_follow_eq_ok hkept
    refine ⟨hvalue, fun hnew => ?_⟩
    obtain ⟨inner, hinner, -⟩ := bind_eq_ok.mp (hfull hnew)
    exact ⟨member, inner, hinner⟩
  case case3 union hunion hnone =>
    obtain rfl := eq_of_resolveValue hunion hshape
    simp [Shape.contents, hnone]
  case case4 union hunion member ref hfirst =>
    obtain rfl := eq_of_resolveValue hunion hshape
    intro h next hnext
    simp only [Shape.contents, hfirst, Option.toList_some, List.map_cons, List.map_nil,
      List.mem_singleton] at hnext
    subst hnext
    obtain ⟨hvalue, hfull⟩ := of_follow_eq_ok h
    exact ⟨hvalue, fun hnew => ⟨name, value, hfull hnew⟩⟩
  case case5 list hlist | case6 list hlist =>
    obtain rfl := eq_of_resolveValue hlist hshape
    intro h next hnext
    obtain rfl := List.mem_singleton.mp hnext
    obtain ⟨hvalue, hfull⟩ := of_follow_eq_ok h
    refine ⟨hvalue, fun hnew => ?_⟩
    obtain ⟨inner, hinner, -⟩ := bind_eq_ok.mp (hfull hnew)
    exact ⟨name, inner, hinner⟩
  case case7 map hmap =>
    obtain rfl := eq_of_resolveValue hmap hshape
    intro h next hnext
    obtain rfl := List.mem_singleton.mp hnext
    obtain ⟨_, -, hfollow⟩ := bind_eq_ok.mp h
    obtain ⟨hvalue, hfull⟩ := of_follow_eq_ok hfollow
    refine ⟨hvalue, fun hnew => ?_⟩
    obtain ⟨key, -, hrest⟩ := bind_eq_ok.mp (hfull hnew)
    obtain ⟨inner, hinner, -⟩ := bind_eq_ok.mp hrest
    exact ⟨name ++ "Value", inner, hinner⟩
  case case8 enum henum | case9 enum henum =>
    obtain rfl := eq_of_resolveValue henum hshape
    simp [Shape.contents]
  case case10 kind traits hsimple =>
    obtain rfl := eq_of_resolveValue hsimple hshape
    simp [Shape.contents]
  case case11 | case12 | case13 => simp

/-- Where a map has an example, its key describes a value, whether it is exemplified or not. -/
theorem key_of_exampleBelow {shape : MapShape}
    (hshape : document.resolveValue id = .ok (.map shape))
    (h : document.exampleBelow hkeys path id name = .ok value) :
    document.DescribesValue shape.key.target := by
  revert h
  fun_cases document.exampleBelow hkeys path id name
  case case7 map hmap =>
    obtain rfl := Shape.map.inj (eq_of_resolveValue hmap hshape)
    intro h
    obtain ⟨target, htarget, -⟩ := bind_eq_ok.mp h
    exact describesValue_iff.mpr ⟨target, htarget⟩
  all_goals simp_all

theorem describesValue_of_exampleBelow (h : document.exampleBelow hkeys path id name = .ok value) :
    document.DescribesValue id := by
  cases hshape : document.resolveValue id with
  | ok shape => exact describesValue_iff.mpr ⟨shape, hshape⟩
  | error error =>
      revert h
      fun_cases document.exampleBelow hkeys path id name <;> simp_all

/-- Where a shape has an example, so has everything that a walk through contents comes to without
touching the path, and what it refers to describes values.  The walk may be taken not to come back
to its start, which is on the path from then on. -/
theorem describesValue_of_walk {path : Finset String} {id name holder next : String} {value : Value}
    (h : document.exampleBelow hkeys path id name = .ok value)
    (hwalk : ReflTransGen (fun here there =>
      document.ContentStep here there ∧ there ∉ path) id holder)
    (hstep : document.ReferenceStep holder next) : document.DescribesValue next := by
  obtain ⟨shape, hshape⟩ := describesValue_iff.mp (describesValue_of_exampleBelow h)
  have hcontents := contents_of_exampleBelow hshape h
  rcases exists_walk_not_back hwalk with rfl | ⟨first, ⟨hfirst, hnew⟩, hne, hrest⟩
  · rcases hstep with hcontent | ⟨map, hmap, rfl⟩
    · exact (hcontents next ((contentStep_iff hshape).mp hcontent)).1
    · obtain rfl := Option.some.inj ((lookup_of_resolveValue hshape).1.symm.trans hmap)
      exact key_of_exampleBelow hshape h
  · have hnotin : first ∉ insert id path := by
      rw [Finset.mem_insert]
      rintro (heq | hmem)
      · exact hne heq
      · exact hnew hmem
    -- From its start on, which is on the path below it, the walk keeps clear of that path.
    have hid := mem_ownIds_of_referenceStep (.inl hfirst)
    obtain ⟨label, inner, hinner⟩ := (hcontents first ((contentStep_iff hshape).mp hfirst)).2 hnotin
    have hbelow : ReflTransGen (fun here there =>
        document.ContentStep here there ∧ there ∉ insert id path) first holder := by
      apply ReflTransGen.mono _ _ _ hrest
      rintro here there ⟨⟨hcontent, hpath⟩, hstart⟩
      exact ⟨hcontent, Finset.mem_insert.not.mpr (not_or.mpr ⟨hstart, hpath⟩)⟩
    exact describesValue_of_walk hinner hbelow hstep
termination_by document.frameBound path id
decreasing_by exact frameBound_lt_of_notMem hid hnotin

/-- Where the keys of all maps that are met refer to nothing, everything is met plainly. -/
theorem meetsPlainly_of_meets (hleaf : ∀ here key, here = id ∨ document.Meets id here →
      document.KeyStep here key → ∀ next, ¬document.ReferenceStep key next)
    (h : document.Meets id next) : document.MeetsPlainly id next := by
  -- Where a walk goes on, its last step was not to a key, since keys lead nowhere.
  have hcontents : ∀ {here}, ReflTransGen document.ReferenceStep id here →
      ∀ next, document.ReferenceStep here next → ReflTransGen document.ContentStep id here := by
    intro here hwalk
    induction hwalk with
    | refl => exact fun _ _ => .refl
    | @tail before here hwalk hstep ih =>
        intro next hnext
        rcases hstep with hcontent | hkey
        · exact (ih here (.inl hcontent)).tail hcontent
        · have hmet := reflTransGen_iff_eq_or_transGen.mp hwalk
          exact absurd hnext (hleaf before here hmet hkey next)
  obtain ⟨here, hwalk, hlast⟩ := TransGen.tail'_iff.mp h
  exact ⟨here, hcontents hwalk next hlast, hlast⟩

theorem exampleBelow_eq_ok_of_meets
    (h : ∀ next, next = id ∨ document.Meets id next → document.DescribesValue next) :
    ∃ value, document.exampleBelow hkeys path id name = .ok value := by
  cases hexample : document.exampleBelow hkeys path id name with
  | ok value => exact ⟨value, rfl⟩
  | error error =>
      obtain ⟨culprit, hwalk, herror⟩ := faultFrom_of_exampleBelow path id name error hexample
      obtain ⟨shape, hshape⟩ :=
        describesValue_iff.mp (h culprit (reflTransGen_iff_eq_or_transGen.mp hwalk))
      rw [hshape] at herror
      cases herror

theorem describesValue_of_meetsPlainly (h : document.exampleBelow hkeys ∅ id name = .ok value)
    (hnext : next = id ∨ document.MeetsPlainly id next) : document.DescribesValue next := by
  rcases hnext with rfl | ⟨holder, hwalk, hstep⟩
  · exact describesValue_of_exampleBelow h
  · apply describesValue_of_walk h _ hstep
    apply ReflTransGen.mono _ _ _ hwalk
    exact fun _ there hcontent => ⟨hcontent, Finset.notMem_empty there⟩

theorem exists_culprit {error : CatalogError} (h : document.FaultFrom id error) :
    error.group ≠ .internalInvariant ∧ ∃ culprit, (culprit = id ∨ document.Meets id culprit) ∧
      ((document.lookup? culprit = none ∧ error = .shapeNotFound culprit) ∨
        ∃ shape, document.lookup? culprit = some shape ∧
          shape.kind ∈ [Kind.service, .resource, .operation] ∧
          error = .notAValue culprit shape.kind) := by
  obtain ⟨culprit, hwalk, herror⟩ := h
  have hmet := reflTransGen_iff_eq_or_transGen.mp hwalk
  rcases resolveValue_eq_error herror with ⟨hnone, rfl⟩ | ⟨shape, hshape, hkind, rfl⟩
  · exact ⟨by simp [CatalogError.group], culprit, hmet, .inl ⟨hnone, rfl⟩⟩
  · have hmem := Kind.mem_of_not_isValue hkind
    exact ⟨by simp [CatalogError.group], culprit, hmet, .inr ⟨shape, hshape, hmem, rfl⟩⟩

/-- Which references decide whether an example is made.  It is made if the id and all that is
met from it describe values; it fails if the id does not, or something that is met without
following a key; so the first is the exact condition where keys refer to nothing.  Every error
names the id itself or one that is met from it, at which nothing stands, or a service, a
resource or an operation. -/
theorem exemplify_of_references (document : Document) (hkeys : document.KeysAcyclic)
    (id name : String) :
    ((∀ next, next = id ∨ document.Meets id next → document.DescribesValue next) →
      ∃ value, ((document.exemplify id name).run []).1 = .ok value) ∧
    ((∃ next, (next = id ∨ document.MeetsPlainly id next) ∧ ¬document.DescribesValue next) →
      ∃ error, ((document.exemplify id name).run []).1 = .error error) ∧
    ((∀ here key, here = id ∨ document.Meets id here → document.KeyStep here key →
        ∀ next, ¬document.ReferenceStep key next) →
      ((∃ value, ((document.exemplify id name).run []).1 = .ok value) ↔
        ∀ next, next = id ∨ document.Meets id next → document.DescribesValue next)) ∧
    ∀ error, ((document.exemplify id name).run []).1 = .error error →
      error.group ≠ .internalInvariant ∧ ∃ culprit, (culprit = id ∨ document.Meets id culprit) ∧
        ((document.lookup? culprit = none ∧ error = .shapeNotFound culprit) ∨
          ∃ shape, document.lookup? culprit = some shape ∧
            shape.kind ∈ [Kind.service, .resource, .operation] ∧
            error = .notAValue culprit shape.kind) := by
  rw [outcome_exemplify hkeys]
  refine ⟨exampleBelow_eq_ok_of_meets, ?_, ?_, ?_⟩
  · rintro ⟨next, hnext, hnot⟩
    cases hexample : document.exampleBelow hkeys ∅ id name with
    | ok value => exact absurd (describesValue_of_meetsPlainly hexample hnext) hnot
    | error error => exact ⟨error, rfl⟩
  · intro hleaf
    refine ⟨?_, exampleBelow_eq_ok_of_meets⟩
    rintro ⟨value, hvalue⟩ next hnext
    exact describesValue_of_meetsPlainly hvalue (hnext.imp_right (meetsPlainly_of_meets hleaf))
  · intro error herror
    exact exists_culprit (faultFrom_of_exampleBelow ∅ id name error herror)

end Document

namespace Example.Dangling

/-- A reference that leads nowhere, behind the key of a map: the page cuts the map off before its
key is exemplified, the index does not.  The titles have nothing to do with it. -/
def document : Document where
  smithy := none
  shapes := ⟨[
    ("a#Page", .struct ⟨⟨[("index", .bare "a#Index")], by decide⟩, SortedMap.empty⟩),
    ("a#Index", .map ⟨.bare "a#Label", .bare "a#Page", SortedMap.empty⟩),
    ("a#Label", .struct ⟨⟨[("text", .bare "a#Lost")], by decide⟩, SortedMap.empty⟩),
    ("a#Titles", .map ⟨.bare "smithy.api#String", .bare "a#Title", SortedMap.empty⟩),
    ("a#Title", .struct ⟨⟨[("text", .bare "smithy.api#String")], by decide⟩, SortedMap.empty⟩)],
    by decide⟩
  metadata := SortedMap.empty

theorem keysAcyclic_document : document.KeysAcyclic := by
  apply Document.keysAcyclic_of_height fun id => if id = "a#Index" ∨ id = "a#Titles" then 1 else 0
  decide

theorem mem_of_titles {next : String} (h : next = "a#Titles" ∨ document.Meets "a#Titles" next) :
    next ∈ ["a#Titles", "smithy.api#String", "a#Title"] :=
  Document.mem_of_walk (by decide) List.mem_cons_self (reflTransGen_iff_eq_or_transGen.mpr h)

/-- All that is met from the titles describes values. -/
theorem describesValue_titles {next : String}
    (h : next = "a#Titles" ∨ document.Meets "a#Titles" next) : document.DescribesValue next := by
  have hmem := mem_of_titles h
  simp only [List.mem_cons, List.not_mem_nil, or_false] at hmem
  rcases hmem with rfl | rfl | rfl <;> exact ⟨_, rfl, rfl⟩

/-- The only key that is met from the titles is a text, which refers to nothing. -/
theorem leafKeys_titles {here key next : String}
    (hhere : here = "a#Titles" ∨ document.Meets "a#Titles" here)
    (hkey : document.KeyStep here key) :
    ¬document.ReferenceStep key next := by
  have hkeys : ∀ entry ∈ document.shapes.entries,
      entry.1 ∈ ["a#Titles", "smithy.api#String", "a#Title"] →
      ∀ key ∈ entry.2.keys, Prelude.kind? key ≠ none := by
    decide
  obtain ⟨entry, hentry, rfl, hmem⟩ := Document.exists_entry_of_keyStep hkey
  intro hstep
  exact hkeys entry hentry (mem_of_titles hhere) key hmem
    (Document.kind?_eq_none (Document.mem_ownIds_of_referenceStep hstep))

/-- The text of a label is met without following a key, and leads nowhere. -/
theorem meetsPlainly_lost :
    document.MeetsPlainly "a#Label" "a#Lost" ∧ ¬document.DescribesValue "a#Lost" := by
  refine ⟨⟨"a#Label", .refl, .inl ⟨_, rfl, List.mem_cons_self⟩⟩, ?_⟩
  rintro ⟨shape, hlookup, -⟩
  cases hlookup

/-- The titles have an example and the label has none.  The index has none either, since its key is
a label, but the page has one. -/
theorem exemplify_titles_label :
    document.KeysAcyclic ∧
      (∃ value, ((document.exemplify "a#Titles" "root").run []).1 = .ok value) ∧
      (∃ error, ((document.exemplify "a#Label" "root").run []).1 = .error error) ∧
      ((∃ value, ((document.exemplify "a#Titles" "root").run []).1 = .ok value) ↔
        ∀ next, next = "a#Titles" ∨ document.Meets "a#Titles" next → document.DescribesValue next) ∧
      ((document.exemplify "a#Index" "root").run []).1 = .error (.shapeNotFound "a#Lost") ∧
      ((document.exemplify "a#Page" "root").run []).1
        = .ok (.object [("index", .object [])]) := by
  have htitles := document.exemplify_of_references keysAcyclic_document "a#Titles" "root"
  have hlabel := document.exemplify_of_references keysAcyclic_document "a#Label" "root"
  obtain ⟨hmet, hlost⟩ := meetsPlainly_lost
  exact ⟨keysAcyclic_document, htitles.1 fun _ => describesValue_titles,
    hlabel.2.1 ⟨"a#Lost", .inr hmet, hlost⟩,
    htitles.2.2.1 fun _ _ hhere hkey _ => leafKeys_titles hhere hkey, rfl, rfl⟩

end Example.Dangling

end ShapeCatalog
