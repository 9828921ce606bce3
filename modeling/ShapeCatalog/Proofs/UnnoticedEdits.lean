import ShapeCatalog.Proofs.FieldEdits
import ShapeCatalog.Proofs.ScannedText

/-!
Readers that do not notice edits.  A draft of a record takes its entries in any order with the same
result, and an unknown entry leaves it as it is.  The entries of a tagged record are what stands
beside the one entry with the tag, wherever that is; edits of them are edits of the others alone.
-/

namespace ShapeCatalog.Json

variable {α β : Type} {room : Nat}

/-- Whatever is read of a tree is also read of the edited tree. -/
def Reader.Ignores (reader : Reader α) (edit : Edit) : Prop :=
  ∀ ⦃room : Nat⦄ ⦃tree tree' : Tree⦄ ⦃found : α⦄, edit room tree tree' →
    reader room tree = .ok found → reader room tree' = .ok found

namespace Reader

variable {reader : Reader α} {edit : Edit}

theorem ignores_keep (reader : Reader α) : reader.Ignores Edit.keep := by
  rintro room tree _ found rfl hread
  exact hread

theorem Ignores.map (h : reader.Ignores edit) (f : α → β) :
    Ignores (fun room tree => (reader room tree).map f) edit := by
  intro room tree tree' found hedit hread
  obtain ⟨value, hvalue, rfl⟩ := map_eq_ok.mp hread
  exact map_eq_ok.mpr ⟨value, h hedit hvalue, rfl⟩

theorem Ignores.optional (h : reader.Ignores edit) :
    (Reader.optional reader).Ignores (Edit.optional edit) := by
  rintro room tree tree' found (_ | ⟨hpresent, hpresent', hedit⟩) hread
  · exact hread
  · rw [Reader.optional] at hread ⊢
    · exact h.map some hedit hread
    · exact hpresent'
    · exact hpresent

/-- Lists are read item by item. -/
theorem mapM_eq_ok_of_forall₂ {γ : Type} {relation : γ → γ → Prop} {read : γ → Except ReadError α}
    (hread : ∀ ⦃item item' : γ⦄ ⦃found : α⦄, relation item item' → read item = .ok found →
      read item' = .ok found)
    {items items' : List γ} {found : List α} (hedited : List.Forall₂ relation items items')
    (h : items.mapM read = .ok found) : items'.mapM read = .ok found := by
  rw [mapM_eq_ok] at h ⊢
  induction hedited generalizing found with
  | nil => exact h
  | cons hfirst _ ih =>
      obtain ⟨value, values, hvalue, hvalues, rfl⟩ := List.forall₂_cons_left_iff.mp h
      exact .cons (hread hfirst hvalue) (ih hvalues)

theorem Ignores.list (h : reader.Ignores edit) :
    (Reader.list reader).Ignores (Edit.items edit) := by
  rintro _ _ _ found ⟨hedited⟩ hread
  obtain ⟨values, hvalues, hread⟩ := bind_eq_ok.mp hread
  refine bind_eq_ok.mpr ⟨values, ?_, hread⟩
  exact mapM_eq_ok_of_forall₂ (@h _) hedited hvalues

theorem Ignores.entries (h : reader.Ignores edit) :
    (Reader.entries reader).Ignores (Edit.values edit) := by
  rintro _ _ _ found ⟨hedited⟩ hread
  obtain ⟨values, hvalues, hread⟩ := bind_eq_ok.mp hread
  refine bind_eq_ok.mpr ⟨values, mapM_eq_ok_of_forall₂ ?_ hedited hvalues, hread⟩
  rintro ⟨key?, tree⟩ ⟨key?', tree'⟩ entry ⟨hkey, hedit⟩ hentry
  obtain rfl : key?' = key? := hkey
  cases key?' with
  | none => cases hentry
  | some key => exact h.map (fun found => (key, found)) hedit hentry

theorem Ignores.orderedMap (h : reader.Ignores edit) :
    (Reader.orderedMap reader).Ignores (Edit.values edit) :=
  h.entries.map OrderedMap.ofList

end Reader

namespace Fields

/-- Whether the reader of each field ignores what may become of its value. -/
inductive Ignore : {δ τ : Type} → Fields δ τ → Entries Edit → Prop where
  | nil : Ignore .nil []
  | cons {α δ τ : Type} {first : FieldSpec α} {rest : Fields δ τ} {edit : Edit}
      {edits : Entries Edit} (head : first.read.Ignores edit) (tail : Ignore rest edits) :
      Ignore (.cons first rest) ((first.name, edit) :: edits)

variable {δ τ : Type} {fields : Fields δ τ} {edits : Entries Edit}

theorem Ignore.keys_eq (h : fields.Ignore edits) : Entries.keys edits = fields.names := by
  induction h with
  | nil => rfl
  | cons _ _ ih => exact congrArg _ ih

/-- An entry is taken by no field but its own. -/
theorem readEntry_of_not_mem (fields : Fields δ τ) {key : String} {tree : Tree}
    (hnot : key ∉ fields.names) (draft : δ) :
    fields.readEntry room key tree draft
      = if tree.isComplete then .ok draft else .error .malformed := by
  induction fields with
  | nil => rfl
  | cons first rest ih =>
      obtain ⟨slot, others⟩ := draft
      rw [names, List.mem_cons, not_or] at hnot
      rw [readEntry, if_neg hnot.1, ih hnot.2]
      split <;> rfl

/-- Two entries that are taken one after the other are also taken the other way round. -/
theorem readEntry_comm (fields : Fields δ τ) {key key' : String} {tree tree' : Tree}
    {draft next last : δ} (hfirst : fields.readEntry room key tree draft = .ok next)
    (hsecond : fields.readEntry room key' tree' next = .ok last) :
    ∃ other, fields.readEntry room key' tree' draft = .ok other ∧
      fields.readEntry room key tree other = .ok last := by
  induction fields with
  | nil => exact ⟨(), hsecond, hfirst⟩
  | cons first rest ih =>
      obtain ⟨slot, others⟩ := draft
      by_cases hkey : key = first.name
      · subst hkey
        obtain ⟨rfl, value, hvalue, rfl⟩ := readEntry_own_eq_ok.mp hfirst
        -- The field is taken already, so that the other entry belongs to another one.
        have hkey' : key' ≠ first.name := by
          rintro rfl
          cases (readEntry_own_eq_ok.mp hsecond).1
        obtain ⟨others', hothers, rfl⟩ := (readEntry_other_eq_ok hkey').mp hsecond
        refine ⟨(none, others'), (readEntry_other_eq_ok hkey').mpr ⟨others', hothers, rfl⟩, ?_⟩
        exact readEntry_own_eq_ok.mpr ⟨rfl, value, hvalue, rfl⟩
      · obtain ⟨others', hothers, rfl⟩ := (readEntry_other_eq_ok hkey).mp hfirst
        by_cases hkey' : key' = first.name
        · subst hkey'
          obtain ⟨rfl, value, hvalue, rfl⟩ := readEntry_own_eq_ok.mp hsecond
          refine ⟨(some value, others), readEntry_own_eq_ok.mpr ⟨rfl, value, hvalue, rfl⟩, ?_⟩
          exact (readEntry_other_eq_ok hkey).mpr ⟨others', hothers, rfl⟩
        · obtain ⟨last, hlast, rfl⟩ := (readEntry_other_eq_ok hkey').mp hsecond
          obtain ⟨other, hother, hboth⟩ := ih hothers hlast
          refine ⟨(slot, other), (readEntry_other_eq_ok hkey').mpr ⟨other, hother, rfl⟩, ?_⟩
          exact (readEntry_other_eq_ok hkey).mpr ⟨last, hboth, rfl⟩

/-- Entries may be taken in any order. -/
theorem readEntries_perm {entries entries' : List (Option String × Tree)}
    (hperm : entries.Perm entries') {draft last : δ}
    (h : fields.readEntries room draft entries = .ok last) :
    fields.readEntries room draft entries' = .ok last := by
  induction hperm generalizing draft with
  | nil => exact h
  | cons entry _ ih =>
      obtain ⟨key, next, hkey, hnext, hrest⟩ := readEntries_cons_eq_ok.mp h
      exact readEntries_cons_eq_ok.mpr ⟨key, next, hkey, hnext, ih hrest⟩
  | swap second first rest =>
      obtain ⟨key, next, hkey, hnext, h⟩ := readEntries_cons_eq_ok.mp h
      obtain ⟨key', after, hkey', hafter, hrest⟩ := readEntries_cons_eq_ok.mp h
      obtain ⟨other, hother, hboth⟩ := readEntry_comm fields hnext hafter
      refine readEntries_cons_eq_ok.mpr ⟨key', other, hkey', hother, ?_⟩
      exact readEntries_cons_eq_ok.mpr ⟨key, after, hkey, hboth, hrest⟩
  | trans _ _ ihfirst ihsecond => exact ihsecond (ihfirst h)

/-- A field whose value is edited is read as before. -/
theorem Ignore.readEntry (h : fields.Ignore edits) (hnodup : fields.names.Nodup) {key : String}
    {edit : Edit} (hknown : (key, edit) ∈ edits) {tree tree' : Tree} (hedit : edit room tree tree')
    {draft next : δ} (hread : fields.readEntry room key tree draft = .ok next) :
    fields.readEntry room key tree' draft = .ok next := by
  induction h with
  | nil => cases hknown
  | @cons _ _ _ first rest own others hfirst hrest ih =>
      obtain ⟨slot, drafts⟩ := draft
      rw [names, List.nodup_cons] at hnodup
      rcases List.mem_cons.mp hknown with heq | hknown
      · obtain ⟨rfl, rfl⟩ := Prod.mk.inj heq
        obtain ⟨hempty, value, hvalue, hnext⟩ := readEntry_own_eq_ok.mp hread
        exact readEntry_own_eq_ok.mpr ⟨hempty, value, hfirst hedit hvalue, hnext⟩
      · have hkey : key ∈ rest.names := by
          rw [← hrest.keys_eq]
          exact List.mem_map_of_mem hknown
        have hne : key ≠ first.name := fun heq => hnodup.1 (heq ▸ hkey)
        obtain ⟨drafts', hdrafts, hnext⟩ := (readEntry_other_eq_ok hne).mp hread
        exact (readEntry_other_eq_ok hne).mpr ⟨drafts', ih hnodup.2 hknown hdrafts, hnext⟩

theorem Ignore.readEntries (h : fields.Ignore edits) (hnodup : fields.names.Nodup)
    {entries entries' : List (Option String × Tree)}
    (hedited : EditsFields edits room entries entries') {draft last : δ}
    (hread : fields.readEntries room draft entries = .ok last) :
    fields.readEntries room draft entries' = .ok last := by
  induction hedited with
  | reorder hperm => exact readEntries_perm hperm hread
  | @insert entries key tree value hunknown hreadable =>
      rw [h.keys_eq] at hunknown
      refine readEntries_cons_eq_ok.mpr ⟨key, draft, rfl, ?_, hread⟩
      rw [readEntry_of_not_mem fields hunknown, if_pos (Tree.isComplete_of_toValue? tree hreadable)]
  | delete hunknown =>
      rw [h.keys_eq] at hunknown
      obtain ⟨key, next, hkey, hnext, hrest⟩ := readEntries_cons_eq_ok.mp hread
      obtain rfl := Option.some.inj hkey
      rw [readEntry_of_not_mem fields hunknown] at hnext
      split at hnext
      · obtain rfl := Except.ok.inj hnext
        exact hrest
      · cases hnext
  | change hknown hedit =>
      obtain ⟨key, next, hkey, hnext, hrest⟩ := readEntries_cons_eq_ok.mp hread
      obtain rfl := Option.some.inj hkey
      refine readEntries_cons_eq_ok.mpr ⟨_, next, rfl, ?_, hrest⟩
      exact h.readEntry hnodup hknown hedit hnext
  | trans _ _ ihfirst ihsecond => exact ihsecond (ihfirst hread)

theorem Ignore.ofEntries (h : fields.Ignore edits) (hnodup : fields.names.Nodup)
    {entries entries' : List (Option String × Tree)}
    (hedited : EditsFields edits room entries entries') {closed : Bool} {values : τ}
    (hread : fields.ofEntries room entries closed = .ok values) :
    fields.ofEntries room entries' closed = .ok values := by
  obtain ⟨draft, hdraft, hread⟩ := bind_eq_ok.mp hread
  exact bind_eq_ok.mpr ⟨draft, h.readEntries hnodup hedited hdraft, hread⟩

/-- In an array each field is read in its place. -/
theorem Ignore.readItems (h : fields.Ignore edits) {items items' : List Tree}
    (hedited : EditsItems room edits items items') {closed : Bool}
    {tooFew tooMany : Nat → ReadError} {before : Nat} {values : τ}
    (hread : fields.readItems room closed tooFew tooMany before items = .ok values) :
    fields.readItems room closed tooFew tooMany before items' = .ok values := by
  induction h generalizing items items' before with
  | nil =>
      cases hedited
      exact hread
  | cons hfirst _ ih =>
      cases hedited with
      | nil => exact hread
      | cons hedit hedits =>
          obtain ⟨value, hvalue, hread⟩ := bind_eq_ok.mp hread
          obtain ⟨others, hothers, hvalues⟩ := map_eq_ok.mp hread
          refine bind_eq_ok.mpr ⟨value, hfirst hedit hvalue, ?_⟩
          exact map_eq_ok.mpr ⟨others, ih hedits hothers, hvalues⟩

end Fields

theorem Fields.closed_of_readItems {δ τ : Type} (fields : Fields δ τ) {closed : Bool}
    {tooFew tooMany : Nat → ReadError} {before : Nat} {items : List Tree} {values : τ}
    (h : fields.readItems room closed tooFew tooMany before items = .ok values) :
    closed = true := by
  induction fields generalizing before items with
  | nil =>
      cases items with
      | nil =>
          rw [readItems] at h
          split at h
          · next hclosed => exact hclosed
          · cases h
      | cons item others => cases h
  | cons first rest ih =>
      cases items with
      | nil =>
          rw [readItems] at h
          split at h
          · next hclosed => exact hclosed
          · cases h
      | cons item others =>
          obtain ⟨value, -, h⟩ := bind_eq_ok.mp h
          obtain ⟨others, hothers, -⟩ := map_eq_ok.mp h
          exact ih hothers

/-- Edits of what stands beside a tag. -/
inductive Payload.Edited (edits : Entries Edit) (room : Nat) : Payload → Payload → Prop where
  | same {payload : Payload} : Edited edits room payload payload
  | entries {entries entries' : List (Option String × Tree)}
      (edited : EditsFields edits room entries entries') :
      Edited edits room (.entries entries) (.entries entries')
  | items {items items' : List Tree} (edited : EditsItems room edits items items') :
      Edited edits room (.items items) (.items items')

namespace Record

variable {τ : Type} {record : Record τ} {edits : Entries Edit}

/-- A record is read only from a container whose closing bracket is there. -/
theorem isClosed_of_reader {tree : Tree} {values : τ} (h : record.reader room tree = .ok values) :
    tree.isClosed = true := by
  unfold reader at h
  split at h
  · cases h
  · cases h
  · obtain ⟨draft, -, h⟩ := bind_eq_ok.mp h
    split at h
    · next hclosed => exact hclosed
    · cases h
  · exact Fields.closed_of_readItems _ h
  · cases h

/-- A record is read from what has become of it as it was before. -/
theorem ignores (h : record.fields.Ignore edits) (hnodup : record.fields.names.Nodup) :
    record.reader.Ignores (Edit.record edits) := by
  rintro _ _ _ found (_ | hedited | hedited) hread
  · exact hread
  · exact h.ofEntries hnodup hedited hread
  · exact h.readItems hedited hread

theorem ofPayload_of_edited (h : record.fields.Ignore edits) (hnodup : record.fields.names.Nodup)
    {payload payload' : Payload} (hedited : payload.Edited edits room payload') {values : τ}
    (hread : record.ofPayload room payload = .ok values) :
    record.ofPayload room payload' = .ok values := by
  cases hedited with
  | same => exact hread
  | entries hedited => exact h.ofEntries hnodup hedited hread
  | items hedited => exact h.readItems hedited hread

end Record

namespace Choice

variable {κ : Type} {choice : Choice κ} {edits : Entries Edit}

/-- Whether an entry is the one that holds the tag. -/
def holdsTag (choice : Choice κ) (entry : Option String × Tree) : Bool :=
  entry.1 = some choice.field

theorem filter_holdsTag_cons {key : String} (hkey : key ≠ choice.field) (tree : Tree)
    (rest : List (Option String × Tree)) :
    ((some key, tree) :: rest).filter choice.holdsTag = rest.filter choice.holdsTag := by
  rw [List.filter_cons_of_neg]
  simp [holdsTag, hkey]

theorem filter_others_cons {key : String} (hkey : key ≠ choice.field) (tree : Tree)
    (rest : List (Option String × Tree)) :
    ((some key, tree) :: rest).filter (fun entry => !choice.holdsTag entry)
      = (some key, tree) :: rest.filter fun entry => !choice.holdsTag entry := by
  rw [List.filter_cons_of_pos]
  simp [holdsTag, hkey]

theorem splitEntries_tag_eq_ok {kind? found? : Option κ} {tag : Tree}
    {rest others : List (Option String × Tree)} :
    choice.splitEntries room kind? ((some choice.field, tag) :: rest) = .ok (found?, others) ↔
      kind? = none ∧ ∃ kind, choice.readTag tag = .ok kind ∧
        choice.splitEntries room (some kind) rest = .ok (found?, others) := by
  rw [splitEntries, if_pos rfl]
  cases kind? with
  | some kind =>
      rw [Option.isSome_some, if_pos rfl]
      constructor
      · intro h
        cases h
      · rintro ⟨h, -⟩
        cases h
  | none => exact bind_eq_ok.trans (and_iff_right rfl).symm

theorem splitEntries_other_eq_ok {kind? found? : Option κ} {key : String}
    (hkey : key ≠ choice.field) {tree : Tree} {rest others : List (Option String × Tree)} :
    choice.splitEntries room kind? ((some key, tree) :: rest) = .ok (found?, others) ↔
      (tree.toValue? room).isSome = true ∧ ∃ others', others = (some key, tree) :: others' ∧
        choice.splitEntries room kind? rest = .ok (found?, others') := by
  rw [splitEntries, if_neg hkey]
  cases tree.toValue? room with
  | none =>
      rw [Option.isNone_none, if_pos rfl]
      constructor
      · intro h
        cases h
      · rintro ⟨h, -⟩
        cases h
  | some value =>
      refine map_eq_ok.trans ⟨?_, ?_⟩
      · rintro ⟨⟨found?', others'⟩, hrest, heq⟩
        cases heq
        exact ⟨rfl, others', rfl, hrest⟩
      · rintro ⟨-, others', rfl, hrest⟩
        exact ⟨(found?, others'), hrest, rfl⟩

/-- Whether a kind is known already and there is no tag, or the one tag there is tells it. -/
inductive Tells (choice : Choice κ) (kind : κ) : Option κ → List (Option String × Tree) → Prop where
  | known : Tells choice kind (some kind) []
  | read {entry : Option String × Tree} (kind_eq : choice.readTag entry.2 = .ok kind) :
      Tells choice kind none [entry]

theorem tells_cons_iff {kind : κ} {kind? : Option κ} {entry : Option String × Tree}
    {tags : List (Option String × Tree)} : choice.Tells kind kind? (entry :: tags) ↔
      kind? = none ∧ ∃ known, choice.readTag entry.2 = .ok known ∧
        choice.Tells kind (some known) tags := by
  constructor
  · intro h
    cases h with
    | read hkind => exact ⟨rfl, kind, hkind, .known⟩
  · rintro ⟨rfl, known, hkind, ⟨⟩⟩
    exact .read hkind

/-- The entries of a tagged record are told apart if one of them holds the tag and the others have
keys and spell values. -/
theorem splitEntries_eq_ok {kind? : Option κ} {kind : κ}
    {entries others : List (Option String × Tree)} :
    choice.splitEntries room kind? entries = .ok (some kind, others) ↔
      choice.Tells kind kind? (entries.filter choice.holdsTag) ∧
      entries.filter (fun entry => !choice.holdsTag entry) = others ∧
      ∀ entry ∈ others, entry.1.isSome = true ∧ (entry.2.toValue? room).isSome = true := by
  induction entries generalizing kind? others with
  | nil =>
      rw [splitEntries, List.filter_nil, List.filter_nil]
      constructor
      · intro h
        cases h
        exact ⟨.known, rfl, List.forall_mem_nil _⟩
      · rintro ⟨⟨⟩, rfl, -⟩
        rfl
  | cons entry rest ih =>
      obtain ⟨_ | key, tree⟩ := entry
      · constructor
        · intro h
          cases h
        · rintro ⟨-, rfl, hothers⟩
          cases (hothers _ List.mem_cons_self).1
      · by_cases hkey : key = choice.field
        · subst hkey
          have htag : choice.holdsTag (some choice.field, tree) = true := decide_eq_true rfl
          rw [splitEntries_tag_eq_ok, List.filter_cons_of_pos htag,
            List.filter_cons_of_neg (by simp [htag]), tells_cons_iff]
          constructor
          · rintro ⟨rfl, known, hknown, hrest⟩
            obtain ⟨htells, hothers⟩ := ih.mp hrest
            exact ⟨⟨rfl, known, hknown, htells⟩, hothers⟩
          · rintro ⟨⟨rfl, known, hknown, htells⟩, hothers⟩
            exact ⟨rfl, known, hknown, ih.mpr ⟨htells, hothers⟩⟩
        · rw [splitEntries_other_eq_ok hkey, filter_holdsTag_cons hkey, filter_others_cons hkey]
          constructor
          · rintro ⟨hreadable, others', rfl, hrest⟩
            obtain ⟨htells, rfl, hothers⟩ := ih.mp hrest
            exact ⟨htells, rfl, List.forall_mem_cons.mpr ⟨⟨rfl, hreadable⟩, hothers⟩⟩
          · rintro ⟨htells, rfl, hothers⟩
            rw [List.forall_mem_cons] at hothers
            exact ⟨hothers.1.2, _, rfl, ih.mpr ⟨htells, rfl, hothers.2⟩⟩

/-- Edits leave the tag as it is, wherever it stands, and are edits of the other entries. -/
theorem parts_of_edited (hfield : choice.field ∉ Entries.keys edits)
    {entries entries' : List (Option String × Tree)}
    (h : EditsFields ((choice.field, Edit.keep) :: edits) room entries entries') :
    (entries.filter choice.holdsTag).Perm (entries'.filter choice.holdsTag) ∧
      EditsFields edits room (entries.filter fun entry => !choice.holdsTag entry)
        (entries'.filter fun entry => !choice.holdsTag entry) := by
  induction h with
  | reorder hperm => exact ⟨hperm.filter _, .reorder (hperm.filter _)⟩
  | insert hunknown hreadable =>
      obtain ⟨hkey, hunknown⟩ := not_or.mp (mt List.mem_cons.mpr hunknown)
      rw [filter_holdsTag_cons hkey, filter_others_cons hkey]
      exact ⟨.refl _, .insert hunknown hreadable⟩
  | delete hunknown =>
      obtain ⟨hkey, hunknown⟩ := not_or.mp (mt List.mem_cons.mpr hunknown)
      rw [filter_holdsTag_cons hkey, filter_others_cons hkey]
      exact ⟨.refl _, .delete hunknown⟩
  | change hknown hedit =>
      rcases List.mem_cons.mp hknown with heq | hknown
      · obtain ⟨rfl, rfl⟩ := Prod.mk.inj heq
        obtain rfl := hedit
        exact ⟨.refl _, .reorder (.refl _)⟩
      · have hkey : _ ≠ choice.field := fun heq => hfield (heq ▸ List.mem_map_of_mem hknown)
        rw [filter_holdsTag_cons hkey, filter_holdsTag_cons hkey, filter_others_cons hkey,
          filter_others_cons hkey]
        exact ⟨.refl _, .change hknown hedit⟩
  | trans _ _ ihfirst ihsecond =>
      exact ⟨ihfirst.1.trans ihsecond.1, ihfirst.2.trans ihsecond.2⟩

section Tagged

variable {fields : κ → Entries Edit} (hfields : ∀ kind, choice.field ∉ Entries.keys (fields kind))
  (hkeeps : ∀ kind, ∀ field ∈ fields kind, field.2.KeepsValues)

include hfields hkeeps

/-- The entries of an edited record are told apart as before, and what stands beside the tag is
edited in the way of its kind. -/
theorem splitEntries_of_edited {kind told : κ} {tag : Tree}
    {entries entries' others : List (Option String × Tree)}
    (hentry : (some choice.field, tag) ∈ entries) (hkind : choice.readTag tag = .ok kind)
    (hedited : EditsFields ((choice.field, Edit.keep) :: fields kind) room entries entries')
    (h : choice.splitEntries room none entries = .ok (some told, others)) :
    told = kind ∧ ∃ others', choice.splitEntries room none entries' = .ok (some told, others') ∧
      EditsFields (fields told) room others others' := by
  obtain ⟨htells, rfl, hothers⟩ := splitEntries_eq_ok.mp h
  obtain ⟨hperm, hedited⟩ := parts_of_edited (hfields kind) hedited
  have htag : (some choice.field, tag) ∈ entries.filter choice.holdsTag :=
    List.mem_filter.mpr ⟨hentry, decide_eq_true rfl⟩
  generalize entries.filter choice.holdsTag = tags at htells hperm htag
  obtain ⟨⟩ | hread := htells
  obtain ⟨-, rfl⟩ := Prod.mk.inj (List.mem_singleton.mp htag)
  obtain rfl := Except.ok.inj (hread.symm.trans hkind)
  refine ⟨rfl, _, splitEntries_eq_ok.mpr ⟨?_, rfl, hedited.keepsValues (hkeeps told) hothers⟩,
    hedited⟩
  rw [List.perm_singleton.mp hperm.symm]
  exact .read hread

theorem split_of_edited {tree tree' : Tree} (hedited : Edit.tagged choice fields room tree tree')
    {kind : κ} {payload : Payload} (h : choice.split room tree = .ok (kind, payload)) :
    ∃ payload', choice.split room tree' = .ok (kind, payload') ∧
      payload.Edited (fields kind) (room - 1) payload' := by
  cases hedited with
  | same => exact ⟨payload, h, .same⟩
  | @object room told tag entries entries' closed hentry hread hedited =>
      obtain ⟨⟨kind?, others⟩, hsplit, h⟩ := bind_eq_ok.mp h
      cases closed with
      | false => cases h
      | true =>
          cases kind? with
          | none => cases h
          | some found =>
              cases h
              obtain ⟨rfl, others', hsplit, hedited⟩ :=
                splitEntries_of_edited hfields hkeeps hentry hread hedited hsplit
              exact ⟨.entries others', bind_eq_ok.mpr ⟨_, hsplit, rfl⟩, .entries hedited⟩
  | @array room told tag trees trees' closed hread hedited =>
      obtain ⟨found, hfound, h⟩ := bind_eq_ok.mp h
      obtain rfl := Except.ok.inj (hfound.symm.trans hread)
      split at h
      · next hreadable =>
          cases h
          refine ⟨.items trees', bind_eq_ok.mpr ⟨_, hfound, ?_⟩, .items hedited⟩
          rw [Bool.and_eq_true, Tree.isSome_itemsToValues?] at hreadable
          rw [if_pos]
          rw [Bool.and_eq_true, Tree.isSome_itemsToValues?]
          exact ⟨hreadable.1, hedited.keepsValues (hkeeps _) hreadable.2⟩
      · cases h

/-- A tagged record is read from what has become of it as it was before, if the record of each kind
is. -/
theorem ignores {read : Nat → Payload → κ → Except ReadError α}
    (hread : ∀ {room kind payload payload' found}, payload.Edited (fields kind) room payload' →
      read room payload kind = .ok found → read room payload' kind = .ok found) :
    Reader.Ignores (fun room tree => (choice.split room tree).bind fun (kind, payload) =>
      read (room - 1) payload kind) (Edit.tagged choice fields) := by
  intro room tree tree' found hedited h
  obtain ⟨⟨kind, payload⟩, hsplit, h⟩ := bind_eq_ok.mp h
  obtain ⟨payload', hsplit, hedited⟩ := split_of_edited hfields hkeeps hedited hsplit
  exact bind_eq_ok.mpr ⟨(kind, payload'), hsplit, hread hedited h⟩

end Tagged

end Choice

/-- What is read from a text is also read from a text that spells the edited tree. -/
theorem Reader.Ignores.ofText {reader : Reader α} {edit : Edit} (h : reader.Ignores edit)
    {text text' : String} {tree tree' : Tree} {found : α} (hspelled : tree.SpelledBy text)
    (hedited : edit maxOpen tree tree') (hspelled' : tree'.SpelledBy text')
    (hread : Reader.ofText reader text = .ok found) : Reader.ofText reader text' = .ok found := by
  rw [ofText_eq_ok, Tree.ofText_of_spelledBy hspelled] at hread
  rw [ofText_eq_ok, Tree.ofText_of_spelledBy hspelled']
  exact ⟨h hedited hread.1, rfl⟩

end ShapeCatalog.Json
