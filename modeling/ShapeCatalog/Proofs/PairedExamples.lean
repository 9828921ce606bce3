import ShapeCatalog.Proofs.Correspondence
import ShapeCatalog.Proofs.OpenFrames

/-!
Examples made side by side.  What a shape gives is settled by what the frames that it opens give:
where these are alike in two documents, or with two numbers of frames left, so are the examples of
the shape, and both runs leave the active ids as they find them.
-/

namespace ShapeCatalog

open Json (Value)

namespace Example

variable {α β γ δ : Type} {same : String → String → Prop}

/-- Ids are active in one run exactly if what stands for them is active in the other. -/
def ActiveMatch (same : String → String → Prop) (active active' : ActiveIds) : Prop :=
  ∀ id id', same id id' → (id ∈ active ↔ id' ∈ active')

theorem activeMatch_nil : ActiveMatch same [] [] :=
  fun _ _ _ => iff_of_false List.not_mem_nil List.not_mem_nil

/-- Started on the active ids of either run, two computations have outcomes that are alike, and both
leave the active ids as they find them. -/
structure Mirrors (same : String → String → Prop) (relation : α → β → Prop)
    (active active' : ActiveIds) (body : Exemplifying α) (body' : Exemplifying β) : Prop where
  restores : Yields body active (body.run active).1
  restores' : Yields body' active' (body'.run active').1
  alike : Alike same relation (body.run active).1 (body'.run active').1

section

variable {relation : α → β → Prop} {relation' : γ → δ → Prop} {active active' : ActiveIds}

theorem mirrors_of_yields {body : Exemplifying α} {body' : Exemplifying β}
    {outcome : Except CatalogError α} {outcome' : Except CatalogError β}
    (hbody : Yields body active outcome) (hbody' : Yields body' active' outcome')
    (h : Alike same relation outcome outcome') :
    Mirrors same relation active active' body body' := by
  have houtcome : (body.run active).1 = outcome := congrArg Prod.fst hbody
  have houtcome' : (body'.run active').1 = outcome' := congrArg Prod.fst hbody'
  refine ⟨?_, ?_, ?_⟩
  · rwa [houtcome]
  · rwa [houtcome']
  · rwa [houtcome, houtcome']

theorem mirrors_pure {value : α} {value' : β} (h : relation value value') :
    Mirrors same relation active active' (pure value) (pure value') :=
  mirrors_of_yields (yields_pure value active) (yields_pure value' active') (.ok h)

theorem mirrors_throw {fault fault' : CatalogError} (h : fault.Matches same fault') :
    Mirrors same relation active active' (throw fault) (throw fault') :=
  mirrors_of_yields (yields_lift (.error fault) active) (yields_lift (.error fault') active')
    (.error h)

theorem mirrors_lift {outcome : Except CatalogError α} {outcome' : Except CatalogError β}
    (h : Alike same relation outcome outcome') :
    Mirrors same relation active active' (liftM outcome) (liftM outcome') :=
  mirrors_of_yields (yields_lift outcome active) (yields_lift outcome' active') h

theorem mirrors_bind {body : Exemplifying α} {body' : Exemplifying β}
    {next : α → Exemplifying γ} {next' : β → Exemplifying δ}
    (hbody : Mirrors same relation active active' body body')
    (hnext : ∀ value value', (body.run active).1 = .ok value → (body'.run active').1 = .ok value' →
      relation value value' → Mirrors same relation' active active' (next value) (next' value')) :
    Mirrors same relation' active active' (body >>= next) (body' >>= next') := by
  obtain ⟨hrestores, hrestores', halike⟩ := hbody
  have hfirst : Yields (body >>= next) active
      ((body.run active).1 >>= fun value => ((next value).run active).1) := by
    apply yields_bind hrestores
    intro value hvalue
    rw [hvalue, alike_ok_left_iff] at halike
    obtain ⟨value', hvalue', hrelation⟩ := halike
    exact (hnext value value' hvalue hvalue' hrelation).restores
  have hsecond : Yields (body' >>= next') active'
      ((body'.run active').1 >>= fun value' => ((next' value').run active').1) := by
    apply yields_bind hrestores'
    intro value' hvalue'
    rw [hvalue', alike_ok_right_iff] at halike
    obtain ⟨value, hvalue, hrelation⟩ := halike
    exact (hnext value value' hvalue hvalue' hrelation).restores'
  apply mirrors_of_yields hfirst hsecond
  apply alike_bind halike
  intro value value' hvalue hvalue' hrelation
  exact (hnext value value' hvalue hvalue' hrelation).alike

theorem mirrors_collect {items : List α} {items' : List β} {f : α → Exemplifying (Option γ)}
    {f' : β → Exemplifying (Option γ)} (h : List.Forall₂ (fun item item' =>
      Mirrors same Eq active active' (f item) (f' item')) items items') :
    Mirrors same Eq active active' (collect f items) (collect f' items') := by
  induction h with
  | nil => exact mirrors_pure rfl
  | cons hfirst _ ih =>
      rw [collect, collect]
      apply mirrors_bind hfirst
      rintro kept? _ _ _ rfl
      apply mirrors_bind ih
      rintro others _ _ _ rfl
      exact mirrors_pure rfl

theorem run_holding {body : Exemplifying α} {id : String} {outcome : Except CatalogError α}
    (h : Yields body (held id active) outcome) : Yields (holding id body) active outcome := by
  rw [held] at h
  split at h
  · next hid => rwa [Yields, run_holding_of_mem hid]
  · next hid =>
      rw [Yields] at h
      rw [Yields, run_holding_of_not_mem hid (by rw [h]), h]

theorem mirrors_holding {body : Exemplifying α} {body' : Exemplifying β} {id id' : String}
    (h : Mirrors same relation (held id active) (held id' active') body body') :
    Mirrors same relation active active' (holding id body) (holding id' body') :=
  mirrors_of_yields (run_holding h.restores) (run_holding h.restores') h.alike

theorem mirrors_unlessActive {id id' : String} {cut kept : Exemplifying α}
    {cut' kept' : Exemplifying β} (hactive : id ∈ active ↔ id' ∈ active')
    (hcut : Mirrors same relation active active' cut cut')
    (hkept : id ∉ active → Mirrors same relation active active' kept kept') :
    Mirrors same relation active active'
      (isActive id >>= fun found => if found = true then cut else kept)
      (isActive id' >>= fun found => if found = true then cut' else kept') := by
  have hfirst := yields_unlessActive rfl hcut.restores fun hid =>
    (hkept fun hmem => hid (List.mem_toFinset.mpr hmem)).restores
  have hsecond := yields_unlessActive rfl hcut.restores' fun hid' =>
    (hkept fun hmem => hid' (List.mem_toFinset.mpr (hactive.mp hmem))).restores'
  apply mirrors_of_yields hfirst hsecond
  by_cases hid : id ∈ active
  · rw [dif_pos (List.mem_toFinset.mpr hid), dif_pos (List.mem_toFinset.mpr (hactive.mp hid))]
    exact hcut.alike
  · have hid' : id' ∉ active' := fun hmem => hid (hactive.mpr hmem)
    rw [dif_neg (mt List.mem_toFinset.mp hid), dif_neg (mt List.mem_toFinset.mp hid')]
    exact (hkept hid).alike

end

variable {document other : Document}

/-- References that stand for one another are followed alike: both are resolved, and then cut off if
they are active. -/
theorem mirrors_follow {relation : α → β → Prop} {active active' : ActiveIds} {id id' : String}
    {cut : Exemplifying α} {cut' : Exemplifying β} {kept : Shape → Exemplifying α}
    {kept' : Shape → Exemplifying β} (h : document.Corresponds same other) (hid : same id id')
    (hactive : ActiveMatch same active active')
    (hcut : Mirrors same relation active active' cut cut')
    (hkept : ∀ target target', document.resolveValue id = .ok target →
      other.resolveValue id' = .ok target' → target.Matches same target' → id ∉ active →
      Mirrors same relation active active' (kept target) (kept' target')) :
    Mirrors same relation active active'
      (liftM (document.resolveValue id) >>= fun target =>
        isActive id >>= fun found => if found = true then cut else kept target)
      (liftM (other.resolveValue id') >>= fun target =>
        isActive id' >>= fun found => if found = true then cut' else kept' target) := by
  apply mirrors_bind (mirrors_lift (h.resolveValue hid))
  intro target target' htarget htarget' hmatches
  apply mirrors_unlessActive (hactive id id' hid) hcut
  exact hkept target target' htarget htarget' hmatches

theorem activeMatch_held (h : document.Corresponds same other) {active active' : ActiveIds}
    {id id' : String} (hid : same id id') (hkind : Prelude.kind? id = none)
    (hactive : ActiveMatch same active active') :
    ActiveMatch same (held id active) (held id' active') := by
  intro next next' hnext
  rw [mem_held, mem_held, h.eq_iff hid hkind hnext, hactive next next' hnext]

/-- Shapes that match have the same example if the frames that they open do.  The numbers of frames
that are left need not be the same. -/
theorem mirrors_ofShape_succ (h : document.Corresponds same other) {frames frames' : Nat}
    {active active' : ActiveIds} {id id' name : String} {shape shape' : Shape} (hid : same id id')
    (hshape : document.resolveValue id = .ok shape) (hmatches : shape.Matches same shape')
    (hactive : ActiveMatch same active active')
    (hopened : ∀ {next next' label target target'},
      Opens document ⟨active, id, name⟩ ⟨held id active, next, label⟩ → same next next' →
      document.resolveValue next = .ok target → other.resolveValue next' = .ok target' →
      target.Matches same target' →
      Mirrors same Eq (held id active) (held id' active')
        (ofShape document frames next target label)
        (ofShape other frames' next' target' label)) :
    Mirrors same Eq active active' (ofShape document (frames + 1) id shape name)
      (ofShape other (frames' + 1) id' shape' name) := by
  -- What is compound stands at an id outside the prelude, and such an id stands for one id only.
  have hheld : (∀ kind traits, shape ≠ .simple kind traits) →
      ActiveMatch same (held id active) (held id' active') := by
    intro hcompound
    have hown := Document.mem_ownIds_of_resolveValue hshape hcompound
    exact activeMatch_held h hid (Document.kind?_eq_none hown) hactive
  have hvalue := (Document.lookup_of_resolveValue hshape).2
  cases hmatches with
  | struct hentries =>
      rw [ofShape, ofShape]
      apply mirrors_holding
      apply mirrors_bind
      · apply mirrors_collect
        apply (forall₂_mem_left hentries).imp
        rintro ⟨member, ref⟩ ⟨_, ref'⟩ ⟨hmem, rfl, href⟩
        apply mirrors_follow h href (hheld (by simp)) (mirrors_pure rfl)
        intro target target' htarget htarget' hmatches hnew
        apply mirrors_bind (hopened (.member hshape hmem hnew) href htarget htarget' hmatches)
        rintro value _ _ _ rfl
        exact mirrors_pure rfl
      · rintro entries _ _ _ rfl
        exact mirrors_pure rfl
  | @union shape shape' hfirst =>
      rw [ofShape, ofShape]
      apply mirrors_holding
      generalize hfound : shape.members.first? = found, shape'.members.first? = found' at hfirst
      cases hfirst with
      | none => exact mirrors_pure rfl
      | some href =>
          apply mirrors_follow h href (hheld (by simp)) (mirrors_pure rfl)
          intro target target' htarget htarget' hmatches hnew
          exact hopened (.variant hshape hfound hnew) href htarget htarget' hmatches
  | list href | set href =>
      rw [ofShape, ofShape]
      apply mirrors_holding
      apply mirrors_follow h href (hheld (by simp)) (mirrors_pure rfl)
      intro target target' htarget htarget' hmatches hnew
      apply mirrors_bind (hopened (.element (by simp [hshape]) hnew) href htarget htarget'
        hmatches)
      rintro value _ _ _ rfl
      exact mirrors_pure rfl
  | map hkey hentry =>
      rw [ofShape, ofShape]
      apply mirrors_holding
      apply mirrors_bind (mirrors_lift (h.resolveValue hkey))
      intro keyTarget keyTarget' hkeyTarget hkeyTarget' hkeyMatches
      apply mirrors_follow h hentry (hheld (by simp)) (mirrors_pure rfl)
      intro target target' htarget htarget' hmatches hnew
      apply mirrors_bind (hopened (.key hshape hnew) hkey hkeyTarget hkeyTarget' hkeyMatches)
      rintro key _ _ _ rfl
      apply mirrors_bind (hopened (.value hshape hnew) hentry htarget htarget' hmatches)
      rintro value _ _ _ rfl
      exact mirrors_pure rfl
  | enum hdeclared | intEnum hdeclared =>
      rw [ofShape, ofShape, hdeclared]
      exact mirrors_holding (mirrors_pure rfl)
  | simple kind traits traits' =>
      rw [ofShape, ofShape]
      exact mirrors_holding (mirrors_pure rfl)
  | service | resource | operation => exact absurd hvalue Bool.false_ne_true

/-- With the same number of frames left, shapes that match have the same example. -/
theorem mirrors_ofShape (h : document.Corresponds same other) (frames : Nat)
    {active active' : ActiveIds} {id id' : String} {shape shape' : Shape} (name : String)
    (hid : same id id') (hshape : document.resolveValue id = .ok shape)
    (hmatches : shape.Matches same shape') (hactive : ActiveMatch same active active') :
    Mirrors same Eq active active' (ofShape document frames id shape name)
      (ofShape other frames id' shape' name) := by
  induction frames generalizing active active' id id' shape shape' name with
  | zero =>
      rw [ofShape, ofShape]
      exact mirrors_throw (.endlessKey hid)
  | succ frames ih =>
      apply mirrors_ofShape_succ h hid hshape hmatches hactive
      intro next next' label target target' hopens hnext htarget _ hmatches
      apply ih label hnext htarget hmatches
      exact activeMatch_held h hid (Document.kind?_eq_none hopens.mem_ownIds) hactive

theorem mirrors_exemplifyWithin (h : document.Corresponds same other) (frames : Nat)
    {active active' : ActiveIds} {id id' : String} (name : String) (hid : same id id')
    (hactive : ActiveMatch same active active') :
    Mirrors same Eq active active' (document.exemplifyWithin frames id name)
      (other.exemplifyWithin frames id' name) := by
  apply mirrors_bind (mirrors_lift (h.resolveValue hid))
  intro shape shape' hshape _ hmatches
  exact mirrors_ofShape h frames name hid hshape hmatches hactive

end Example

end ShapeCatalog
