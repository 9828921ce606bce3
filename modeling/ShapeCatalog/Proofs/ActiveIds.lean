import ShapeCatalog.Proofs.PathExample

/-!
The active shapes as a state.  Every shape leaves the active ids as it finds them, whether it ends
in an example or in an error, so that they are the path at every point; a shape that is entered
again through a key stays active for the shape around it.
-/

namespace ShapeCatalog

open Json (Value)

namespace Example

variable {α β : Type} {active : ActiveIds} {path : Finset String} {id : String}

/-- Started on some active ids, a computation has an outcome and leaves the ids as they are. -/
def Yields (body : Exemplifying α) (active : ActiveIds) (outcome : Except CatalogError α) : Prop :=
  body.run active = (outcome, active)

theorem yields_pure (value : α) (active : ActiveIds) : Yields (pure value) active (pure value) :=
  rfl

theorem yields_lift (outcome : Except CatalogError α) (active : ActiveIds) :
    Yields (liftM outcome) active outcome :=
  rfl

theorem yields_bind {body : Exemplifying α} {next : α → Exemplifying β}
    {outcome : Except CatalogError α} {rest : α → Except CatalogError β}
    (hbody : Yields body active outcome)
    (hnext : ∀ value, outcome = .ok value → Yields (next value) active (rest value)) :
    Yields (body >>= next) active (outcome >>= rest) := by
  show (ExceptT.bindCont next (body.run active).1) (body.run active).2 = _
  rw [hbody]
  cases outcome with
  | ok value => exact hnext value rfl
  | error error => rfl

/-- What is active is cut off, and all else goes on. -/
theorem yields_unlessActive {cut kept : Exemplifying α} {short full : Except CatalogError α}
    (hpath : active.toFinset = path) (hcut : Yields cut active short)
    (hkept : id ∉ path → Yields kept active full) :
    Yields (isActive id >>= fun found => if found = true then cut else kept) active
      (if _h : id ∈ path then short else full) := by
  show Yields (if active.contains id = true then cut else kept) active _
  by_cases hid : id ∈ path
  · have hcontains : active.contains id = true := by
      rwa [List.contains_iff_mem, ← List.mem_toFinset, hpath]
    rw [if_pos hcontains, dif_pos hid]
    exact hcut
  · have hcontains : ¬active.contains id = true := by
      rwa [List.contains_iff_mem, ← List.mem_toFinset, hpath]
    rw [if_neg hcontains, dif_neg hid]
    exact hkept hid

theorem yields_collect {f : α → Exemplifying (Option β)} {g : α → Except CatalogError (Option β)}
    (h : ∀ item, Yields (f item) active (g item)) (items : List α) :
    Yields (collect f items) active (items.filterMapM g) := by
  induction items with
  | nil => exact yields_pure [] active
  | cons first rest ih =>
      rw [collect, List.filterMapM_cons]
      refine yields_bind (h first) fun kept? _ => ?_
      cases kept? with
      | none =>
          have hbind := yields_bind ih fun others _ => yields_pure others active
          simpa using hbind
      | some kept => exact yields_bind ih fun others _ => yields_pure (kept :: others) active

/-- While an id is held it is on the path; afterwards it is active only if it was before. -/
theorem yields_holding {body : Exemplifying α} {outcome : Except CatalogError α}
    (h : ∀ inner : ActiveIds, inner.toFinset = insert id active.toFinset →
      Yields body inner outcome) : Yields (holding id body) active outcome := by
  by_cases hid : id ∈ active
  · have hpath : active.toFinset = insert id active.toFinset :=
      (Finset.insert_eq_of_mem (List.mem_toFinset.mpr hid)).symm
    rw [Yields, run_holding_of_mem hid]
    exact h active hpath
  · have hinner := h (id :: active) List.toFinset_cons
    rw [Yields] at hinner
    rw [Yields, run_holding_of_not_mem hid (by rw [hinner]), hinner]

variable {document : Document}

/-- Following a reference: it is resolved first, and then cut off if it is active. -/
theorem yields_follow {cut : Exemplifying α} {kept : Shape → Exemplifying α}
    {short full : Except CatalogError α} (hpath : active.toFinset = path)
    (hcut : Yields cut active short)
    (hkept : ∀ target, document.resolveValue id = .ok target → id ∉ path →
      Yields (kept target) active full) :
    Yields (liftM (document.resolveValue id) >>= fun target =>
        isActive id >>= fun found => if found = true then cut else kept target) active
      (document.resolveValue id >>= fun _ => if _h : id ∈ path then short else full) := by
  refine yields_bind (yields_lift _ active) fun target htarget => ?_
  exact yields_unlessActive hpath hcut (hkept target htarget)

/-- With as many frames as the path can still fill, the computation with a state does what the
computation on a path does. -/
theorem yields_ofShape (hkeys : document.KeysAcyclic) (frames : Nat) {active : ActiveIds}
    {id : String} {shape : Shape} (name : String) (hshape : document.resolveValue id = .ok shape)
    (hframes : document.frameBound active.toFinset id ≤ frames) :
    Yields (ofShape document frames id shape name) active
      (document.exampleBelow hkeys active.toFinset id name) := by
  induction frames generalizing active id shape name with
  | zero =>
      rw [Document.frameBound] at hframes
      omega
  | succ frames ih =>
      have hbelow : ∀ {inner : ActiveIds} {other : String} {target : Shape} (label : String),
          inner.toFinset = insert id active.toFinset → document.resolveValue other = .ok target →
          document.frameBound (insert id active.toFinset) other
            < document.frameBound active.toFinset id →
          Yields (ofShape document frames other target label) inner
            (document.exampleBelow hkeys (insert id active.toFinset) other label) := by
        intro inner other target label hinner htarget hlt
        rw [← hinner] at hlt ⊢
        exact ih label htarget (by omega)
      fun_cases document.exampleBelow hkeys active.toFinset id name
      case case1 error herror =>
        rw [hshape] at herror
        cases herror
      case case2 struct hstruct =>
        obtain rfl := Document.eq_of_resolveValue hshape hstruct
        have hid := Document.mem_ownIds_of_resolveValue hshape (by simp)
        rw [ofShape]
        refine yields_holding fun inner hinner => ?_
        refine yields_bind (yields_collect ?_ _) fun entries _ => yields_pure _ _
        rintro ⟨member, ref⟩
        refine yields_follow hinner (yields_pure _ _) fun target htarget hnew => ?_
        refine yields_bind (hbelow member hinner htarget ?_) fun value _ => yields_pure _ _
        exact Document.frameBound_lt_of_notMem hid hnew
      case case3 union hunion hnone =>
        obtain rfl := Document.eq_of_resolveValue hshape hunion
        rw [ofShape, hnone]
        exact yields_holding fun inner _ => yields_pure _ inner
      case case4 union hunion member ref hfirst =>
        obtain rfl := Document.eq_of_resolveValue hshape hunion
        have hid := Document.mem_ownIds_of_resolveValue hshape (by simp)
        rw [ofShape, hfirst]
        refine yields_holding fun inner hinner => ?_
        refine yields_follow hinner (yields_pure _ _) fun target htarget hnew => ?_
        exact hbelow name hinner htarget (Document.frameBound_lt_of_notMem hid hnew)
      case case5 list hlist | case6 list hlist =>
        obtain rfl := Document.eq_of_resolveValue hshape hlist
        have hid := Document.mem_ownIds_of_resolveValue hshape (by simp)
        rw [ofShape]
        refine yields_holding fun inner hinner => ?_
        refine yields_follow hinner (yields_pure _ _) fun target htarget hnew => ?_
        refine yields_bind (hbelow name hinner htarget ?_) fun value _ => yields_pure _ _
        exact Document.frameBound_lt_of_notMem hid hnew
      case case7 map hmap =>
        obtain rfl := Document.eq_of_resolveValue hshape hmap
        have hid := Document.mem_ownIds_of_resolveValue hshape (by simp)
        have hkey := Document.keyStep_of_resolveValue hshape
        rw [ofShape]
        refine yields_holding fun inner hinner => ?_
        refine yields_bind (yields_lift _ inner) fun keyTarget hkeyTarget => ?_
        refine yields_follow hinner (yields_pure _ _) fun valueTarget hvalueTarget hnew => ?_
        refine yields_bind (hbelow (name ++ "Key") hinner hkeyTarget ?_) fun key _ => ?_
        · exact Document.frameBound_lt_of_keyStep hkeys hkey
        refine yields_bind (hbelow (name ++ "Value") hinner hvalueTarget ?_) fun value _ =>
          yields_pure _ _
        exact Document.frameBound_lt_of_notMem hid hnew
      case case8 enum henum | case9 enum henum =>
        obtain rfl := Document.eq_of_resolveValue hshape henum
        rw [ofShape]
        exact yields_holding fun inner _ => yields_pure _ inner
      case case10 kind traits hsimple =>
        obtain rfl := Document.eq_of_resolveValue hshape hsimple
        rw [ofShape]
        exact yields_holding fun inner _ => yields_pure _ inner
      case case11 inner hinner | case12 inner hinner | case13 inner hinner =>
        exact absurd (Document.lookup_of_resolveValue hinner).2 Bool.false_ne_true

end Example

theorem Document.yields_exemplify {document : Document} (hkeys : document.KeysAcyclic)
    (active : ActiveIds) (id name : String) :
    Example.Yields (document.exemplify id name) active
      (document.exampleBelow hkeys active.toFinset id name) := by
  cases hshape : document.resolveValue id with
  | error error =>
      have hexample : document.exampleBelow hkeys active.toFinset id name = .error error := by
        rw [exampleBelow]
        split <;> simp_all
      rw [exemplify, hshape, hexample]
      rfl
  | ok shape =>
      rw [exemplify, hshape]
      exact Example.yields_ofShape hkeys _ name hshape (frameBound_le_maxFrames _ _ _)

/-- The computation that keeps the active shapes as a state gives what the computation on a path
gives, be it an example or an error, and leaves the active shapes as they were.  The example of a
structure has the members that do not lead back to the path, in declared order. -/
theorem Document.run_exemplify (document : Document) (hkeys : document.KeysAcyclic)
    (active : ActiveIds) (id name : String) :
    (document.exemplify id name).run active
        = (document.exampleBelow hkeys active.toFinset id name, active) ∧
      ∀ shape value, document.resolveValue id = .ok (.struct shape) →
        document.exampleBelow hkeys active.toFinset id name = .ok value →
        ∃ entries, value = .object entries ∧ Entries.keys entries =
          Entries.keys (shape.members.entries.filter fun entry =>
            entry.2.target ∉ insert id active.toFinset) :=
  ⟨yields_exemplify hkeys active id name, fun _ _ hshape => keys_exampleBelow hshape⟩

/-- From no active shapes, an example or its error is that on the empty path. -/
theorem Document.outcome_exemplify {document : Document} (hkeys : document.KeysAcyclic)
    (id name : String) :
    ((document.exemplify id name).run []).1 = document.exampleBelow hkeys ∅ id name :=
  congrArg Prod.fst (yields_exemplify hkeys [] id name)

namespace Example.Reentry

/-- A structure with a map whose keys are the structure itself. -/
def document : Document where
  smithy := none
  shapes := ⟨[
    ("a#Page", .struct ⟨⟨[("index", .bare "a#Index"), ("title", .bare "smithy.api#String")],
      by decide⟩, SortedMap.empty⟩),
    ("a#Index", .map ⟨.bare "a#Page", .bare "smithy.api#Integer", SortedMap.empty⟩)], by decide⟩
  metadata := SortedMap.empty

theorem keysAcyclic_document : document.KeysAcyclic := by
  apply Document.keysAcyclic_of_height fun id => if id = "a#Index" then 1 else 0
  decide

/-- The index of an active page enters the page again for its keys, and the page stays active.  A
page of an active index keeps its title only. -/
theorem run_exemplify_index :
    document.KeysAcyclic ∧
      (document.exemplify "a#Index" "root").run ["a#Page"]
        = (document.exampleBelow keysAcyclic_document (List.toFinset ["a#Page"]) "a#Index" "root",
          ["a#Page"]) ∧
      document.exampleBelow keysAcyclic_document (List.toFinset ["a#Page"]) "a#Index" "root"
        = .ok (.object [("\x7b\"title\":\"title\"\x7d", number)]) ∧
      (∃ shape entries, document.resolveValue "a#Page" = .ok (.struct shape) ∧
        document.exampleBelow keysAcyclic_document (List.toFinset ["a#Index"]) "a#Page" "root"
          = .ok (.object entries) ∧
        Entries.keys entries = ["title"] ∧
        Entries.keys entries = Entries.keys (shape.members.entries.filter fun entry =>
          entry.2.target ∉ insert "a#Page" (List.toFinset ["a#Index"]))) := by
  obtain ⟨hrun, -⟩ := document.run_exemplify keysAcyclic_document ["a#Page"] "a#Index" "root"
  obtain ⟨hpage, hkeys⟩ := document.run_exemplify keysAcyclic_document ["a#Index"] "a#Page" "root"
  have hvalue := (congrArg Prod.fst hpage).symm
  obtain ⟨entries, hentries, hnames⟩ := hkeys _ _ rfl hvalue
  obtain rfl := Value.object.inj hentries
  exact ⟨keysAcyclic_document, hrun, (congrArg Prod.fst hrun).symm, _, _, rfl, hvalue, rfl, hnames⟩

end Example.Reentry

end ShapeCatalog
