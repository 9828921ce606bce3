import ShapeCatalog.Proofs.ActiveIds
import ShapeCatalog.Proofs.ValueReferences

/-!
Examples expanded in full.  Where no reference that is met leads back to where it was met, an
example can be expanded by recursion on the references alone.  There the active shapes are those
further up, none of which is referred to again, so that nothing is ever cut off.
-/

namespace ShapeCatalog

open Relation
open Json (Value)

namespace Document

variable {document : Document} {id next name : String}

/-- Nothing that is met from an id, the id itself included, is met from itself. -/
def AcyclicFrom (document : Document) (id : String) : Prop :=
  ∀ here, ReflTransGen document.ReferenceStep id here → ¬document.Meets here here

namespace AcyclicFrom

theorem of_step (h : document.AcyclicFrom id) (hstep : document.ReferenceStep id next) :
    document.AcyclicFrom next :=
  fun here hwalk => h here (.head hstep hwalk)

theorem rank_lt (h : document.AcyclicFrom id) (hstep : document.ReferenceStep id next) :
    document.rank document.ReferenceStep next < document.rank document.ReferenceStep id :=
  rank_lt_of_not_back (h id .refl) (mem_ownIds_of_referenceStep hstep) hstep

/-- Nothing is met from itself among ids that lead to one another only, each of them
to lower ones. -/
theorem of_height (ids : List String) (height : String → Nat)
    (hdown : ∀ entry ∈ document.shapes.entries, entry.1 ∈ ids →
      ∀ next ∈ entry.2.contents ++ entry.2.keys, next ∈ ids ∧ height next < height entry.1)
    (hid : id ∈ ids) : document.AcyclicFrom id := by
  have hclosed : ∀ entry ∈ document.shapes.entries, entry.1 ∈ ids →
      ∀ next ∈ entry.2.contents ++ entry.2.keys, next ∈ ids :=
    fun entry hentry hmem next hnext => (hdown entry hentry hmem next hnext).1
  have hstep : ∀ {here there}, here ∈ ids → document.ReferenceStep here there →
      height there < height here := by
    intro here there hhere hstep
    obtain ⟨shape, hmem, hnext⟩ := exists_entry_of_referenceStep hstep
    exact (hdown _ hmem hhere _ hnext).2
  have hlower : ∀ {here there}, here ∈ ids → document.Meets here there →
      height there < height here := by
    intro here there hhere hmeets
    induction hmeets with
    | single hlast => exact hstep hhere hlast
    | tail hmeets hlast ih =>
        have hmem := mem_of_walk hclosed hhere hmeets.to_reflTransGen
        exact Nat.lt_trans (hstep hmem hlast) ih
  intro here hwalk hloop
  exact Nat.lt_irrefl _ (hlower (mem_of_walk hclosed hid hwalk) hloop)

end AcyclicFrom

/-- The example of the shape with an id, under a name, in which every reference is expanded: all
members of a structure, the first member of a union, one element of a list or set, one entry of a
map.  Both references of a map are looked up before the key is expanded. -/
def expansion (document : Document) (id : String) (hacyclic : document.AcyclicFrom id)
    (name : String) : Except CatalogError Value :=
  match hshape : document.resolveValue id with
  | .error error => .error error
  | .ok (.struct shape) => do
      let entries ← shape.members.entries.attach.mapM fun ⟨(member, ref), hmem⟩ => do
        let value ← expansion document ref.target
          (hacyclic.of_step (referenceStep_of_member hshape hmem)) member
        return (member, value)
      return .object entries
  | .ok (.union shape) =>
      match hfirst : shape.members.first? with
      | none => return Example.emptyObject
      | some (_, ref) => expansion document ref.target
          (hacyclic.of_step (referenceStep_of_variant hshape hfirst)) name
  | .ok (.list shape) | .ok (.set shape) => do
      let value ← expansion document shape.member.target
        (hacyclic.of_step (referenceStep_of_element (by simp [hshape]))) name
      return .array [value]
  | .ok (.map shape) => do
      let _ ← document.resolveValue shape.key.target
      let _ ← document.resolveValue shape.value.target
      let key ← expansion document shape.key.target (hacyclic.of_step (referenceStep_of_key hshape))
        (name ++ "Key")
      let value ← expansion document shape.value.target
        (hacyclic.of_step (referenceStep_of_value hshape)) (name ++ "Value")
      return .object [(Example.keyText key, value)]
  | .ok (.enum shape) => return (Example.declaredValue? shape).getD (.string name)
  | .ok (.intEnum shape) => return (Example.declaredValue? shape).getD Example.number
  | .ok (.simple kind _) => return Example.ofSimple name kind
  | .ok (.service _) => .error (.noExample .service id)
  | .ok (.resource _) => .error (.noExample .resource id)
  | .ok (.operation _) => .error (.noExample .operation id)
termination_by document.rank document.ReferenceStep id
decreasing_by
  · exact hacyclic.rank_lt (referenceStep_of_member hshape hmem)
  · exact hacyclic.rank_lt (referenceStep_of_variant hshape hfirst)
  · exact hacyclic.rank_lt (referenceStep_of_element (.inl hshape))
  · exact hacyclic.rank_lt (referenceStep_of_element (.inr hshape))
  · exact hacyclic.rank_lt (referenceStep_of_key hshape)
  · exact hacyclic.rank_lt (referenceStep_of_value hshape)

theorem expansion_of_error {hacyclic : document.AcyclicFrom id} {error : CatalogError}
    (h : document.resolveValue id = .error error) :
    document.expansion id hacyclic name = .error error := by
  fun_cases document.expansion id hacyclic name <;> simp_all

theorem expansion_bind_of_error {α : Type} {hacyclic : document.AcyclicFrom id}
    {error : CatalogError} (h : document.resolveValue id = .error error)
    (rest : Value → Except CatalogError α) :
    (document.expansion id hacyclic name >>= rest) = .error error := by
  rw [expansion_of_error h]
  rfl

end Document

namespace Example

variable {document : Document} {active : ActiveIds} {id next : String}

/-- All that is active leads to the id. -/
def ActiveAbove (document : Document) (active : ActiveIds) (id : String) : Prop :=
  ∀ above ∈ active, document.Meets above id

namespace ActiveAbove

variable {inner : ActiveIds} (h : ActiveAbove document active id)
  (hinner : inner.toFinset = insert id active.toFinset) (hstep : document.ReferenceStep id next)

include h hinner hstep

/-- Below a shape, what was active and the shape itself lead to what the shape refers to. -/
theorem of_step : ActiveAbove document inner next := by
  intro above habove
  rw [← List.mem_toFinset, hinner, Finset.mem_insert, List.mem_toFinset] at habove
  rcases habove with rfl | habove
  · exact .single hstep
  · exact (h above habove).tail hstep

/-- What a shape refers to is not active, or it would lead to itself. -/
theorem not_mem (hacyclic : document.AcyclicFrom id) : next ∉ inner := by
  intro hmem
  exact hacyclic next (.single hstep) (h.of_step hinner hstep next hmem)

end ActiveAbove

/-- A reference that is not active is followed, and the only other fault is that of
looking it up. -/
theorem yields_followed {α : Type} {cut : Exemplifying α} {kept : Shape → Exemplifying α}
    {full : Except CatalogError α} (hnew : id ∉ active)
    (hfault : ∀ error, document.resolveValue id = .error error → full = .error error)
    (hkept : ∀ target, document.resolveValue id = .ok target → Yields (kept target) active full) :
    Yields (liftM (document.resolveValue id) >>= fun target =>
        isActive id >>= fun found => if found = true then cut else kept target) active full := by
  cases hresolve : document.resolveValue id with
  | error error =>
      rw [hfault error hresolve]
      rfl
  | ok target =>
      have hcontains : ¬active.contains id = true :=
        fun hmem => hnew (List.contains_iff_mem.mp hmem)
      show Yields (if active.contains id = true then cut else kept target) active full
      rw [if_neg hcontains]
      exact hkept target hresolve

theorem collect_map {α β γ : Type} (f : β → Exemplifying (Option γ)) (item : α → β)
    (items : List α) : collect f (items.map item) = collect (fun each => f (item each)) items := by
  induction items with
  | nil => rfl
  | cons first rest ih => rw [List.map_cons, collect, collect, ih]

/-- Where something is kept of every item, the items are computed one by one. -/
theorem yields_collect_attach {α β : Type} {items : List α} {f : α → Exemplifying (Option β)}
    {g : {item // item ∈ items} → Except CatalogError β}
    (h : ∀ item, Yields (f item.1) active ((g item).map some)) :
    Yields (collect f items) active (items.attach.mapM g) := by
  have hcollect := yields_collect h items.attach
  rwa [filterMapM_map_some, ← collect_map, List.attach_map_subtype_val] at hcollect

/-- With as many frames as there are shapes below the first one, and one more, the computation with
a state expands every reference, if all that is active lies further up. -/
theorem yields_expansion (frames : Nat) {active : ActiveIds} {id : String} {shape : Shape}
    (name : String) (hacyclic : document.AcyclicFrom id)
    (hshape : document.resolveValue id = .ok shape)
    (hframes : document.rank document.ReferenceStep id < frames)
    (habove : ActiveAbove document active id) :
    Yields (ofShape document frames id shape name) active
      (document.expansion id hacyclic name) := by
  -- What is active always leads to the shape at hand, so that no reference of it is ever cut off.
  induction frames generalizing active id shape name with
  | zero => exact absurd hframes (Nat.not_lt_zero _)
  | succ frames ih =>
      have hbelow : ∀ {inner : ActiveIds} {next : String} {target : Shape} (label : String)
          (hstep : document.ReferenceStep id next), inner.toFinset = insert id active.toFinset →
          document.resolveValue next = .ok target →
          Yields (ofShape document frames next target label) inner
            (document.expansion next (hacyclic.of_step hstep) label) := by
        intro inner next target label hstep hinner htarget
        have hrank := hacyclic.rank_lt hstep
        exact ih label (hacyclic.of_step hstep) htarget (by omega) (habove.of_step hinner hstep)
      fun_cases document.expansion id hacyclic name
      case case1 error herror =>
        rw [hshape] at herror
        cases herror
      case case2 struct hstruct =>
        obtain rfl := Document.eq_of_resolveValue hshape hstruct
        rw [ofShape]
        refine yields_holding fun inner hinner => ?_
        refine yields_bind (yields_collect_attach ?_) fun entries _ => yields_pure _ _
        rintro ⟨⟨member, ref⟩, hmem⟩
        have hstep := Document.referenceStep_of_member hshape hmem
        have hnew := habove.not_mem hinner hstep hacyclic
        rw [map_bind_pure]
        refine yields_followed hnew ?_ fun target htarget => ?_
        · exact fun error herror => Document.expansion_bind_of_error herror _
        · exact yields_bind (hbelow member hstep hinner htarget) fun value _ => yields_pure _ _
      case case3 union hunion hnone =>
        obtain rfl := Document.eq_of_resolveValue hshape hunion
        rw [ofShape, hnone]
        exact yields_holding fun inner _ => yields_pure _ inner
      case case4 union hunion member ref hfirst =>
        obtain rfl := Document.eq_of_resolveValue hshape hunion
        have hstep := Document.referenceStep_of_variant hshape hfirst
        rw [ofShape, hfirst]
        refine yields_holding fun inner hinner => ?_
        have hnew := habove.not_mem hinner hstep hacyclic
        refine yields_followed hnew ?_ fun target htarget => ?_
        · exact fun error herror => Document.expansion_of_error herror
        · exact hbelow name hstep hinner htarget
      case case5 list hlist | case6 list hlist =>
        obtain rfl := Document.eq_of_resolveValue hshape hlist
        have hstep : document.ReferenceStep id list.member.target :=
          Document.referenceStep_of_element (by simp [hshape])
        rw [ofShape]
        refine yields_holding fun inner hinner => ?_
        have hnew := habove.not_mem hinner hstep hacyclic
        refine yields_followed hnew ?_ fun target htarget => ?_
        · exact fun error herror => Document.expansion_bind_of_error herror _
        · exact yields_bind (hbelow name hstep hinner htarget) fun value _ => yields_pure _ _
      case case7 map hmap =>
        obtain rfl := Document.eq_of_resolveValue hshape hmap
        have hkey := Document.referenceStep_of_key hshape
        have hvalue := Document.referenceStep_of_value hshape
        rw [ofShape]
        refine yields_holding fun inner hinner => ?_
        -- Only the value is looked for among what is active; the key is entered in any case.
        have hnew := habove.not_mem hinner hvalue hacyclic
        refine yields_bind (yields_lift _ inner) fun keyTarget hkeyTarget => ?_
        refine yields_followed hnew (fun error herror => by rw [herror]; rfl)
          fun target htarget => ?_
        rw [htarget]
        refine yields_bind (hbelow (name ++ "Key") hkey hinner hkeyTarget) fun key _ => ?_
        exact yields_bind (hbelow (name ++ "Value") hvalue hinner htarget) fun value _ =>
          yields_pure _ _
      case case8 enum henum | case9 enum henum =>
        obtain rfl := Document.eq_of_resolveValue hshape henum
        rw [ofShape]
        exact yields_holding fun inner _ => yields_pure _ inner
      case case10 kind traits hsimple =>
        obtain rfl := Document.eq_of_resolveValue hshape hsimple
        rw [ofShape]
        exact yields_holding fun inner _ => yields_pure _ inner
      case case11 inner hinner | case12 inner hinner | case13 inner hinner =>
        exact absurd (Document.lookup_of_resolveValue hinner).2 Bool.false_ne_true

end Example

namespace Document

variable {document : Document} {id name : String} {hacyclic : document.AcyclicFrom id}
  {value : Value}

theorem yields_exemplify_of_acyclic (hacyclic : document.AcyclicFrom id) (name : String) :
    Example.Yields (document.exemplify id name) [] (document.expansion id hacyclic name) := by
  cases hshape : document.resolveValue id with
  | error error =>
      rw [exemplify, hshape, expansion_of_error hshape]
      rfl
  | ok shape =>
      have hframes : document.rank document.ReferenceStep id < Example.maxFrames document := by
        have hrank := document.rank_le document.ReferenceStep id
        have hsquare := Nat.le_mul_self document.shapes.size
        rw [Example.maxFrames]
        omega
      rw [exemplify, hshape]
      exact Example.yields_expansion _ name hacyclic hshape hframes (List.forall_mem_nil _)

/-- What is expanded in place is what is expanded from the start. -/
theorem exemplify_eq_ok_of_expansion (h : document.expansion id hacyclic name = .ok value) :
    ((document.exemplify id name).run []).1 = .ok value :=
  (congrArg Prod.fst (yields_exemplify_of_acyclic hacyclic name)).trans h

theorem entries_of_expansion {shape : MembersShape}
    (hshape : document.resolveValue id = .ok (.struct shape))
    (h : document.expansion id hacyclic name = .ok value) :
    ∃ entries, value = .object entries ∧ List.Forall₂ (fun member entry => entry.1 = member.1 ∧
      ((document.exemplify member.2.target member.1).run []).1 = .ok entry.2)
        shape.members.entries entries := by
  revert h
  fun_cases document.expansion id hacyclic name
  case case2 struct hstruct =>
    obtain rfl := Shape.struct.inj (eq_of_resolveValue hstruct hshape)
    intro h
    obtain ⟨entries, hentries, heq⟩ := bind_eq_ok.mp h
    refine ⟨entries, (pure_eq_ok.mp heq).symm, ?_⟩
    have hmembers : List.Forall₂ (fun member entry => entry.1 = member.1 ∧
        ((document.exemplify member.2.target member.1).run []).1 = .ok entry.2)
          (struct.members.entries.attach.map Subtype.val) entries := by
      rw [List.forall₂_map_left_iff]
      apply (mapM_eq_ok.mp hentries).imp
      rintro ⟨⟨member, ref⟩, hmem⟩ entry hentry
      obtain ⟨inner, hinner, hpair⟩ := bind_eq_ok.mp hentry
      obtain rfl := pure_eq_ok.mp hpair
      exact ⟨rfl, exemplify_eq_ok_of_expansion hinner⟩
    rwa [List.attach_map_subtype_val] at hmembers
  all_goals simp_all

theorem item_of_expansion {shape : ListShape}
    (hshape : document.resolveValue id = .ok (.list shape) ∨
      document.resolveValue id = .ok (.set shape))
    (h : document.expansion id hacyclic name = .ok value) :
    ∃ item, value = .array [item] ∧
      ((document.exemplify shape.member.target name).run []).1 = .ok item := by
  revert h
  fun_cases document.expansion id hacyclic name
  case case5 list hlist | case6 list hlist =>
    obtain rfl : list = shape := by simpa [hlist] using hshape
    intro h
    obtain ⟨item, hitem, heq⟩ := bind_eq_ok.mp h
    exact ⟨item, (pure_eq_ok.mp heq).symm, exemplify_eq_ok_of_expansion hitem⟩
  all_goals simp_all

theorem entry_of_expansion {shape : MapShape}
    (hshape : document.resolveValue id = .ok (.map shape))
    (h : document.expansion id hacyclic name = .ok value) :
    ∃ key item, value = .object [(Example.keyText key, item)] ∧
      ((document.exemplify shape.key.target (name ++ "Key")).run []).1 = .ok key ∧
      ((document.exemplify shape.value.target (name ++ "Value")).run []).1 = .ok item := by
  revert h
  fun_cases document.expansion id hacyclic name
  case case7 map hmap =>
    obtain rfl := Shape.map.inj (eq_of_resolveValue hmap hshape)
    intro h
    obtain ⟨_, -, h⟩ := bind_eq_ok.mp h
    obtain ⟨_, -, h⟩ := bind_eq_ok.mp h
    obtain ⟨key, hkey, h⟩ := bind_eq_ok.mp h
    obtain ⟨item, hitem, heq⟩ := bind_eq_ok.mp h
    exact ⟨key, item, (pure_eq_ok.mp heq).symm, exemplify_eq_ok_of_expansion hkey,
      exemplify_eq_ok_of_expansion hitem⟩
  all_goals simp_all

/-- Where no reference that is met from an id leads back to where it was met, nothing is cut off.
The example, or the error, is that of expanding every reference.  A structure has all its members in
declared order, a list or a set has one element and a map one entry, and each of them is what its
own shape gives from the start. -/
theorem exemplify_of_acyclic (document : Document) (id name : String)
    (hacyclic : document.AcyclicFrom id) :
    (document.exemplify id name).run [] = (document.expansion id hacyclic name, []) ∧
    ∀ value, document.expansion id hacyclic name = .ok value →
      (∀ shape, document.resolveValue id = .ok (.struct shape) →
        ∃ entries, value = .object entries ∧ List.Forall₂ (fun member entry =>
          entry.1 = member.1 ∧
          ((document.exemplify member.2.target member.1).run []).1 = .ok entry.2)
            shape.members.entries entries) ∧
      (∀ shape, document.resolveValue id = .ok (.list shape) ∨
          document.resolveValue id = .ok (.set shape) →
        ∃ item, value = .array [item] ∧
          ((document.exemplify shape.member.target name).run []).1 = .ok item) ∧
      ∀ shape, document.resolveValue id = .ok (.map shape) →
        ∃ key item, value = .object [(Example.keyText key, item)] ∧
          ((document.exemplify shape.key.target (name ++ "Key")).run []).1 = .ok key ∧
          ((document.exemplify shape.value.target (name ++ "Value")).run []).1 = .ok item := by
  refine ⟨yields_exemplify_of_acyclic hacyclic name, ?_⟩
  intro value hvalue
  exact ⟨fun _ hshape => entries_of_expansion hshape hvalue,
    fun _ hshape => item_of_expansion hshape hvalue,
    fun _ hshape => entry_of_expansion hshape hvalue⟩

end Document

namespace Example.Shared

/-- A point that is reached as two members, and as the key and the value of a map, beside a map that
is its own key and that nothing refers to. -/
def document : Document where
  smithy := none
  shapes := ⟨[
    ("a#Pair", .struct ⟨⟨[("left", .bare "a#Point"), ("right", .bare "a#Point"),
      ("marks", .bare "a#Marks")], by decide⟩, SortedMap.empty⟩),
    ("a#Point", .struct ⟨⟨[("x", .bare "smithy.api#Integer")], by decide⟩, SortedMap.empty⟩),
    ("a#Marks", .map ⟨.bare "a#Point", .bare "a#Point", SortedMap.empty⟩),
    ("a#Spiral", .map ⟨.bare "a#Spiral", .bare "a#Spiral", SortedMap.empty⟩)], by decide⟩
  metadata := SortedMap.empty

def height (id : String) : Nat :=
  if id = "a#Pair" then 3 else if id = "a#Marks" then 2 else if id = "a#Point" then 1 else 0

theorem acyclicFrom_pair : document.AcyclicFrom "a#Pair" := by
  apply Document.AcyclicFrom.of_height ["a#Pair", "a#Marks", "a#Point", "smithy.api#Integer"] height
  · decide
  · exact List.mem_cons_self

/-- The point is there at each of its places. -/
theorem exemplify_pair :
    document.AcyclicFrom "a#Pair" ∧
      (document.exemplify "a#Pair" "root").run []
        = (document.expansion "a#Pair" acyclicFrom_pair "root", []) ∧
      document.expansion "a#Pair" acyclicFrom_pair "root" = .ok (.object [
        ("left", .object [("x", number)]),
        ("right", .object [("x", number)]),
        ("marks", .object [("\x7b\"x\":123\x7d", .object [("x", number)])])]) := by
  have hrun := (document.exemplify_of_acyclic "a#Pair" "root" acyclicFrom_pair).1
  exact ⟨acyclicFrom_pair, hrun, (congrArg Prod.fst hrun).symm⟩

end Example.Shared

end ShapeCatalog
