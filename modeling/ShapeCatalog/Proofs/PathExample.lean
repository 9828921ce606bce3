import ShapeCatalog.Proofs.Outcome
import ShapeCatalog.Proofs.References

/-!
Examples without a state.  The shapes that are being exemplified are given to every shape as a set,
the path, and nothing has to be undone.  Between two shapes that are new to the path lie keys only,
which bounds how many shapes can be open at once.
-/

namespace ShapeCatalog

open Json (Value)

namespace Document

variable {document : Document} {path : Finset String} {id other : String}

theorem eq_of_resolveValue {shape found : Shape} (h : document.resolveValue id = .ok shape)
    (hfound : document.resolveValue id = .ok found) : shape = found :=
  Except.ok.inj (h.symm.trans hfound)

theorem lookup_of_resolveValue {shape : Shape} (h : document.resolveValue id = .ok shape) :
    document.lookup? id = some shape ∧ shape.kind.isValue = true := by
  rw [resolveValue, resolve] at h
  cases hlookup : document.lookup? id with
  | none =>
      rw [hlookup] at h
      exact absurd h (by simp [Except.bind])
  | some found =>
      rw [hlookup] at h
      simp only [Except.bind, Shape.requireValue] at h
      split at h
      · next hvalue =>
          obtain rfl := Except.ok.inj h
          exact ⟨rfl, hvalue⟩
      · exact absurd h (by simp)

theorem mem_ownIds_of_resolveValue {shape : Shape} (h : document.resolveValue id = .ok shape)
    (hshape : ∀ kind traits, shape ≠ .simple kind traits) : id ∈ document.ownIds :=
  mem_ownIds_of_lookup (lookup_of_resolveValue h).1 hshape

theorem keyStep_of_resolveValue {shape : MapShape}
    (h : document.resolveValue id = .ok (.map shape)) :
    document.KeyStep id shape.key.target :=
  ⟨shape, (lookup_of_resolveValue h).1, rfl⟩

/-- How many shapes can be open at once from an id on, itself included, while the shapes of a path
are open: between two shapes that are new to the path lie keys only, and no more of them than the
document has shapes. -/
noncomputable def frameBound (document : Document) (path : Finset String) (id : String) : Nat :=
  (document.ownIds \ insert id path).card * document.shapes.size
    + document.rank document.KeyStep id + 1

/-- Below a shape of the document, every shape that is new to the path has fewer frames left. -/
theorem frameBound_lt_of_notMem (hid : id ∈ document.ownIds) (hother : other ∉ insert id path) :
    document.frameBound (insert id path) other < document.frameBound path id := by
  have hpos : 0 < document.rank document.KeyStep id := rank_pos hid
  by_cases hown : other ∈ document.ownIds
  · have hnew : other ∈ document.ownIds \ insert id path := Finset.mem_sdiff.mpr ⟨hown, hother⟩
    have hcard : (document.ownIds \ insert other (insert id path)).card + 1
        = (document.ownIds \ insert id path).card := by
      rw [Finset.sdiff_insert]
      exact Finset.card_erase_add_one hnew
    have hrank := document.rank_le document.KeyStep other
    rw [frameBound, frameBound, ← hcard, Nat.add_mul]
    omega
  · have hrank : document.rank document.KeyStep other = 0 :=
      rank_eq_zero hown fun _ hstep => hown (mem_ownIds_of_keyStep hstep)
    have hcard : document.ownIds \ insert other (insert id path)
        = document.ownIds \ insert id path := by
      rw [Finset.sdiff_insert]
      exact Finset.erase_eq_of_notMem fun hmem => hown (Finset.mem_sdiff.mp hmem).1
    rw [frameBound, frameBound, hcard, hrank]
    omega

/-- A key may be on the path already, but it has fewer keys below it. -/
theorem frameBound_lt_of_keyStep (hkeys : document.KeysAcyclic)
    (hstep : document.KeyStep id other) :
    document.frameBound (insert id path) other < document.frameBound path id := by
  have hrank := rank_lt_of_step hkeys (mem_ownIds_of_keyStep hstep) hstep
  have hcard : (document.ownIds \ insert other (insert id path)).card
      ≤ (document.ownIds \ insert id path).card :=
    Finset.card_le_card
      (Finset.sdiff_subset_sdiff (Finset.Subset.refl _) (Finset.subset_insert _ _))
  have hmul := Nat.mul_le_mul_right document.shapes.size hcard
  rw [frameBound, frameBound]
  omega

theorem frameBound_le_maxFrames (document : Document) (path : Finset String) (id : String) :
    document.frameBound path id ≤ Example.maxFrames document := by
  have hown := document.card_ownIds_le
  rw [frameBound, Example.maxFrames]
  by_cases hid : id ∈ document.ownIds
  · have hsubset : document.ownIds \ insert id path ⊆ document.ownIds.erase id := by
      rw [Finset.sdiff_insert]
      exact Finset.erase_subset_erase _ Finset.sdiff_subset
    have hcard : (document.ownIds \ insert id path).card + 1 ≤ document.shapes.size := by
      have hle := Finset.card_le_card hsubset
      have herase := Finset.card_erase_add_one hid
      omega
    have hmul := Nat.mul_le_mul_right document.shapes.size hcard
    have hrank := document.rank_le document.KeyStep id
    rw [Nat.add_mul] at hmul
    omega
  · have hrank : document.rank document.KeyStep id = 0 :=
      rank_eq_zero hid fun _ hstep => hid (mem_ownIds_of_keyStep hstep)
    have hcard : (document.ownIds \ insert id path).card ≤ document.shapes.size :=
      Nat.le_trans (Finset.card_le_card Finset.sdiff_subset) hown
    have hmul := Nat.mul_le_mul_right document.shapes.size hcard
    omega

/-- An example of the shape with an id, under a name, below the shapes of a path.  Every reference
is resolved before the path is looked at, and what is on the path with this shape is cut off; only
the key of a map is not. -/
def exampleBelow (document : Document) (hkeys : document.KeysAcyclic) (path : Finset String)
    (id name : String) : Except CatalogError Value :=
  match _hshape : document.resolveValue id with
  | .error error => .error error
  | .ok (.struct shape) => do
      let entries ← shape.members.entries.filterMapM fun (member, ref) => do
        let _ ← document.resolveValue ref.target
        if _h : ref.target ∈ insert id path then return none
        else
          let value ← exampleBelow document hkeys (insert id path) ref.target member
          return some (member, value)
      return .object entries
  | .ok (.union shape) =>
      match shape.members.first? with
      | none => return Example.emptyObject
      | some (_, ref) => do
          let _ ← document.resolveValue ref.target
          if _h : ref.target ∈ insert id path then return Example.emptyObject
          else exampleBelow document hkeys (insert id path) ref.target name
  | .ok (.list shape) | .ok (.set shape) => do
      let _ ← document.resolveValue shape.member.target
      if _h : shape.member.target ∈ insert id path then return .array []
      else
        let value ← exampleBelow document hkeys (insert id path) shape.member.target name
        return .array [value]
  | .ok (.map shape) => do
      let _ ← document.resolveValue shape.key.target
      let _ ← document.resolveValue shape.value.target
      if _h : shape.value.target ∈ insert id path then return Example.emptyObject
      else
        let key ← exampleBelow document hkeys (insert id path) shape.key.target (name ++ "Key")
        let value ← exampleBelow document hkeys (insert id path) shape.value.target
          (name ++ "Value")
        return .object [(Example.keyText key, value)]
  | .ok (.enum shape) => return (Example.declaredValue? shape).getD (.string name)
  | .ok (.intEnum shape) => return (Example.declaredValue? shape).getD Example.number
  | .ok (.simple kind _) => return Example.ofSimple name kind
  | .ok (.service _) => .error (.noExample .service id)
  | .ok (.resource _) => .error (.noExample .resource id)
  | .ok (.operation _) => .error (.noExample .operation id)
termination_by document.frameBound path id
decreasing_by
  all_goals first
    | exact frameBound_lt_of_keyStep hkeys (keyStep_of_resolveValue _hshape)
    | exact frameBound_lt_of_notMem (mem_ownIds_of_resolveValue _hshape (by simp)) _h

theorem keys_reduceOption {keep : String × ShapeRef → Bool}
    {entries : Entries ShapeRef} {found : List (Option (String × Value))}
    (h : List.Forall₂ (fun entry kept? => kept?.map Prod.fst =
      if keep entry then some entry.1 else none) entries found) :
    Entries.keys found.reduceOption = Entries.keys (entries.filter keep) := by
  induction h with
  | nil => rfl
  | @cons entry kept? rest found hkept _ ih =>
      simp only [Entries.keys] at ih ⊢
      by_cases hkeep : keep entry = true
      · rw [if_pos hkeep, Option.map_eq_some_iff] at hkept
        obtain ⟨kept, rfl, hname⟩ := hkept
        simp [hkeep, hname, ih]
      · rw [if_neg hkeep, Option.map_eq_none_iff] at hkept
        simp [hkeep, hkept, ih]

/-- The example of a structure has the members that are not on the path, in declared order. -/
theorem keys_exampleBelow {hkeys : document.KeysAcyclic} {name : String} {shape : MembersShape}
    {value : Value} (hshape : document.resolveValue id = .ok (.struct shape))
    (h : document.exampleBelow hkeys path id name = .ok value) :
    ∃ entries, value = .object entries ∧ Entries.keys entries =
      Entries.keys (shape.members.entries.filter fun entry =>
        entry.2.target ∉ insert id path) := by
  revert h
  fun_cases document.exampleBelow hkeys path id name
  case case2 struct hstruct =>
    obtain rfl := Shape.struct.inj (eq_of_resolveValue hstruct hshape)
    intro h
    obtain ⟨entries, hentries, heq⟩ := bind_eq_ok.mp h
    obtain ⟨found, hfound, rfl⟩ := filterMapM_eq_ok.mp hentries
    refine ⟨_, (pure_eq_ok.mp heq).symm, keys_reduceOption (hfound.imp ?_)⟩
    rintro ⟨member, ref⟩ kept? hkept
    obtain ⟨target, -, hcut⟩ := bind_eq_ok.mp hkept
    by_cases hpath : ref.target ∈ insert id path
    · rw [dif_pos hpath, pure_eq_ok] at hcut
      simp [← hcut, hpath]
    · rw [dif_neg hpath] at hcut
      obtain ⟨inner, -, hmember⟩ := bind_eq_ok.mp hcut
      simp [← pure_eq_ok.mp hmember, hpath]
  all_goals simp_all

end Document

end ShapeCatalog
