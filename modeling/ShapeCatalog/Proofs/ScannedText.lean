import ShapeCatalog.Proofs.SpelledText

/-!
Nothing but spelled trees is scanned.  Whatever the scanner reads off the front of a text without a
break, the characters that it takes are in the grammar and spell what it found.  So a text that is
read as a container is spelled throughout.
-/

namespace ShapeCatalog.Json

theorem exists_blank (text : List Char) :
    ∃ blank, IsBlank blank ∧ text = blank ++ skipSpacing text :=
  ⟨text.takeWhile isSpacing, List.all_eq_true.mp List.all_takeWhile,
    List.takeWhile_append_dropWhile.symm⟩

theorem spells_of_scanPieces {text rest : List Char} {pieces : List Piece}
    (h : scanPieces text = some (pieces, rest)) :
    ∃ body, SpellsPieces pieces body ∧ text = body ++ '"' :: rest := by
  fun_induction scanPieces text generalizing pieces with
  | case1 => cases h
  | case2 after =>
      cases h
      exact ⟨[], .nil, rfl⟩
  | case3 a b c d after ih =>
      obtain ⟨unit, hunit, h⟩ := Option.bind_eq_some_iff.mp h
      obtain ⟨⟨found, rest⟩, hscan, heq⟩ := Option.map_eq_some_iff.mp h
      cases heq
      obtain ⟨body, hbody, rfl⟩ := ih hscan
      exact ⟨_, .unit hunit hbody, rfl⟩
  | case4 letter after _ ih =>
      obtain ⟨c, hc, h⟩ := Option.bind_eq_some_iff.mp h
      obtain ⟨⟨found, rest⟩, hscan, heq⟩ := Option.map_eq_some_iff.mp h
      cases heq
      obtain ⟨body, hbody, rfl⟩ := ih hscan
      exact ⟨_, .escaped hc hbody, rfl⟩
  | case5 => cases h
  | case6 c after hquote hunit hletter hcontrol ih =>
      obtain ⟨⟨found, rest⟩, hscan, heq⟩ := Option.map_eq_some_iff.mp h
      cases heq
      obtain ⟨body, hbody, hbody_eq⟩ := ih hscan
      -- A backslash is left for a plain character only at the end of the text, where no
      -- quote follows.
      have hslash : c ≠ '\\' := by
        rintro rfl
        cases after with
        | nil => cases hscan
        | cons letter others => exact hletter letter others rfl rfl
      exact ⟨_, .plain hquote hslash hcontrol hbody, congrArg _ hbody_eq⟩

section Numbers

variable {text rest : List Char}

theorem isDigits_digitRun (h : digitRun text ≠ []) : IsDigits (digitRun text) :=
  ⟨h, List.all_eq_true.mp List.all_takeWhile⟩

theorem eq_digitRun_append (text : List Char) : text = digitRun text ++ afterDigits text :=
  List.takeWhile_append_dropWhile.symm

theorem spells_of_scanFraction? {fraction? : Option (List Char)}
    (h : scanFraction? text = some (fraction?, rest)) :
    ∃ spelled, SpellsFraction fraction? spelled ∧ text = spelled ++ rest := by
  unfold scanFraction? at h
  split at h
  · next after =>
      split at h
      · cases h
      · next hrun =>
          cases h
          exact ⟨_, .given (isDigits_digitRun hrun), congrArg _ (eq_digitRun_append after)⟩
  · cases h
    exact ⟨[], .absent, rfl⟩

theorem spells_of_scanPower? {negative : Bool} {exponent? : Option Exponent}
    (h : scanPower? negative text = some (exponent?, rest)) {mark : Char}
    (hmark : mark = 'e' ∨ mark = 'E') {sign : List Char} (hsign : SpellsSign negative sign) :
    ∃ spelled, SpellsExponent exponent? spelled ∧ mark :: (sign ++ text) = spelled ++ rest := by
  unfold scanPower? at h
  split at h
  · cases h
  · next hrun =>
      cases h
      refine ⟨_, .given hmark hsign (isDigits_digitRun hrun), ?_⟩
      rw [List.cons_append, List.append_assoc, ← eq_digitRun_append]

theorem spells_of_scanExponent? {exponent? : Option Exponent}
    (h : scanExponent? text = some (exponent?, rest)) :
    ∃ spelled, SpellsExponent exponent? spelled ∧ text = spelled ++ rest := by
  unfold scanExponent? at h
  split at h
  · exact spells_of_scanPower? h (Or.inl rfl) .minus
  · exact spells_of_scanPower? h (Or.inr rfl) .minus
  · exact spells_of_scanPower? h (Or.inl rfl) .plus
  · exact spells_of_scanPower? h (Or.inr rfl) .plus
  · exact spells_of_scanPower? h (Or.inl rfl) .absent
  · exact spells_of_scanPower? h (Or.inr rfl) .absent
  · cases h
    exact ⟨[], .absent, rfl⟩

theorem spells_of_scanWhole? {digits : List Char} (h : scanWhole? text = some (digits, rest)) :
    IsDigits digits ∧ (digits.head? = some '0' → digits = ['0']) ∧ text = digits ++ rest := by
  simp only [scanWhole?] at h
  split at h
  · cases h
  · next hwhole =>
      cases h
      obtain ⟨hrun, hleading⟩ := not_or.mp hwhole
      refine ⟨isDigits_digitRun hrun, fun hzero => ?_, eq_digitRun_append text⟩
      exact Decidable.not_not.mp (not_and.mp hleading hzero)

theorem spells_of_scanUnsigned? {negative : Bool} {literal : Literal}
    (h : scanUnsigned? negative text = some (literal, rest)) :
    ∃ spelled, SpellsNumber literal ((if negative then ['-'] else []) ++ spelled) ∧
      text = spelled ++ rest := by
  obtain ⟨⟨whole, afterWhole⟩, hscanWhole, h⟩ := Option.bind_eq_some_iff.mp h
  obtain ⟨⟨fraction?, afterFraction⟩, hscanFraction, h⟩ := Option.bind_eq_some_iff.mp h
  obtain ⟨⟨exponent?, after⟩, hscanExponent, heq⟩ := Option.map_eq_some_iff.mp h
  cases heq
  obtain ⟨hrun, hleading, rfl⟩ := spells_of_scanWhole? hscanWhole
  obtain ⟨fraction, hfraction, rfl⟩ := spells_of_scanFraction? hscanFraction
  obtain ⟨exponent, hexponent, rfl⟩ := spells_of_scanExponent? hscanExponent
  refine ⟨_, .intro hrun hleading hfraction hexponent, ?_⟩
  rw [List.append_assoc, List.append_assoc]

theorem spells_of_scanNumber? {literal : Literal} (h : scanNumber? text = some (literal, rest)) :
    ∃ spelled, SpellsNumber literal spelled ∧ text = spelled ++ rest := by
  unfold scanNumber? at h
  split at h
  · obtain ⟨spelled, hspelled, rfl⟩ := spells_of_scanUnsigned? h
    exact ⟨_, hspelled, rfl⟩
  · obtain ⟨spelled, hspelled, rfl⟩ := spells_of_scanUnsigned? h
    exact ⟨_, hspelled, rfl⟩

end Numbers

theorem Scanned.Gives.of_widen {α β : Type} {text inner rest : List Char}
    {scanned : Scanned α inner} {f : α → β} {hlength : inner.length ≤ text.length} {found : β}
    (h : (scanned.widen f hlength : Scanned β text).Gives found rest) :
    ∃ part, scanned.Gives part rest ∧ f part = found := by
  obtain ⟨part, rest?⟩ := scanned
  refine ⟨part, ⟨rfl, ?_⟩, h.found_eq⟩
  have hrest : (rest?.map _).map Subtype.val = some rest := h.rest_eq
  rwa [Option.map_map] at hrest

theorem spells_of_scanString {text rest : List Char} {found : Option String}
    (h : (scanString text).Gives found rest) :
    ∃ spelled, SpellsString found spelled ∧ '"' :: text = spelled ++ rest := by
  rw [scanString] at h
  split at h
  · cases h.rest_eq
  · next pieces after hscan =>
      obtain ⟨body, hbody, rfl⟩ := spells_of_scanPieces hscan
      obtain rfl := h.found_eq
      obtain rfl := Option.some.inj h.rest_eq
      refine ⟨_, .intro hbody, ?_⟩
      rw [List.cons_append, List.append_assoc]
      rfl

theorem spells_of_scanScalar {text rest : List Char} {tree : Tree}
    (h : (scanScalar text).Gives tree rest) :
    ∃ spelled, SpellsTree tree spelled ∧ text = spelled ++ rest := by
  unfold scanScalar at h
  split at h
  · obtain rfl := h.found_eq
    obtain rfl := Option.some.inj h.rest_eq
    exact ⟨_, .null, rfl⟩
  · obtain rfl := h.found_eq
    obtain rfl := Option.some.inj h.rest_eq
    exact ⟨_, .boolTrue, rfl⟩
  · obtain rfl := h.found_eq
    obtain rfl := Option.some.inj h.rest_eq
    exact ⟨_, .boolFalse, rfl⟩
  · split at h
    · next literal after hscan =>
        obtain rfl := h.found_eq
        obtain rfl := Option.some.inj h.rest_eq
        obtain ⟨spelled, hspelled, rfl⟩ := spells_of_scanNumber? hscan
        exact ⟨spelled, .number hspelled, rfl⟩
    · cases h.rest_eq

theorem Scanned.gives_of_rest? {α : Type} {text : List Char} {scanned : Scanned α text}
    {rest : { rest : List Char // rest.length < text.length }} (h : scanned.rest? = some rest) :
    scanned.Gives scanned.found rest.1 :=
  ⟨rfl, congrArg (Option.map Subtype.val) h⟩

theorem Scanned.Gives.isSome {α : Type} {text rest : List Char} {scanned : Scanned α text}
    {found : α} (h : scanned.Gives found rest) : scanned.rest?.isSome = true := by
  obtain ⟨_, rfl⟩ := h.exists_eq
  rfl

/-- What a container that is read off a text holds, if the rest is what its contents leave. -/
theorem Scanned.gives_of_map {α : Type} {text inner rest : List Char} {scanned : Scanned α inner}
    {hlength : ∀ after : { after : List Char // after.length < inner.length },
      after.1.length < text.length}
    (h : (scanned.rest?.map fun after =>
        (⟨after.1, hlength after⟩ : { after : List Char // after.length < text.length })).map
      Subtype.val = some rest) :
    scanned.Gives scanned.found rest := by
  rw [Option.map_map] at h
  exact ⟨rfl, h⟩

/-- What stands in front of a text from which a tree is read. -/
inductive StartsTree (text : List Char) : Tree → List Char → Prop where
  | array {inner rest : List Char} {items : List Tree} (mark : skipSpacing text = '[' :: inner)
      (fills : Fills ']' scanItems inner items rest) : StartsTree text (.array items true) rest
  | object {inner rest : List Char} {entries : List (Option String × Tree)}
      (mark : skipSpacing text = '\x7b' :: inner)
      (fills : Fills '\x7d' scanEntries inner entries rest) :
      StartsTree text (.object entries true) rest
  | string {inner rest : List Char} {found : Option String} (mark : skipSpacing text = '"' :: inner)
      (gives : (scanString inner).Gives found rest) : StartsTree text (.string found) rest
  | scalar {tree : Tree} {rest : List Char}
      (gives : (scanScalar (skipSpacing text)).Gives tree rest) : StartsTree text tree rest

theorem startsTree_of_gives {text rest : List Char} {tree : Tree}
    (h : (scanTree text).Gives tree rest) : StartsTree text tree rest := by
  rw [scanTree] at h
  split at h
  · next inner hinner =>
      split at h
      · next after hafter =>
          obtain rfl : Tree.array [] true = tree := h.found_eq
          obtain rfl : after = rest := Option.some.inj h.rest_eq
          exact .array hinner (.empty hafter rfl)
      · next hopened =>
          have hitems : (scanItems inner).Gives (scanItems inner).found rest :=
            Scanned.gives_of_map h.rest_eq
          obtain rfl : Tree.array (scanItems inner).found (scanItems inner).rest?.isSome = tree :=
            h.found_eq
          rw [hitems.isSome]
          exact .array hinner (.items hopened hitems)
  · next inner hinner =>
      split at h
      · next after hafter =>
          obtain rfl : Tree.object [] true = tree := h.found_eq
          obtain rfl : after = rest := Option.some.inj h.rest_eq
          exact .object hinner (.empty hafter rfl)
      · next hopened =>
          have hentries : (scanEntries inner).Gives (scanEntries inner).found rest :=
            Scanned.gives_of_map h.rest_eq
          obtain rfl :
              Tree.object (scanEntries inner).found (scanEntries inner).rest?.isSome = tree :=
            h.found_eq
          rw [hentries.isSome]
          exact .object hinner (.items hopened hentries)
  · next inner hinner =>
      obtain ⟨found, hstring, rfl⟩ := h.of_widen
      exact .string hinner hstring
  · obtain ⟨found, hscalar, rfl⟩ := h.of_widen
    exact .scalar hscalar

theorem exists_item_of_gives {text rest : List Char} {items : List Tree}
    (h : (scanItems text).Gives items rest) : ∃ item others inner, items = item :: others ∧
      (scanTree text).Gives item inner ∧ Follows ']' scanItems inner others rest := by
  rw [scanItems] at h
  dsimp only at h
  split at h
  · cases h.rest_eq
  · next inner hlength hitem =>
      have hgives := Scanned.gives_of_rest? hitem
      split at h
      · next after hafter =>
          obtain ⟨others, hothers, rfl⟩ := h.of_widen
          exact ⟨_, others, inner, rfl, hgives, .more hafter hothers⟩
      · next after hafter =>
          obtain rfl := h.found_eq
          obtain rfl : after = rest := Option.some.inj h.rest_eq
          exact ⟨_, [], inner, rfl, hgives, .last hafter rfl⟩
      · cases h.rest_eq

theorem exists_entry_of_gives {text rest : List Char} {entries : List (Option String × Tree)}
    (h : (scanEntries text).Gives entries rest) : ∃ key tree others inner,
      entries = (key, tree) :: others ∧ StartsEntry text key tree inner ∧
        Follows '\x7d' scanEntries inner others rest := by
  rw [scanEntries] at h
  split at h
  · next afterQuote hquote =>
      dsimp only at h
      split at h
      · cases h.rest_eq
      · next afterKey hlength hkey =>
          have hfound := Scanned.gives_of_rest? hkey
          split at h
          · next afterColon hcolon =>
              split at h
              · cases h.rest_eq
              · next inner hlength' hvalue =>
                  have hgives := Scanned.gives_of_rest? hvalue
                  have hstarts := StartsEntry.intro hquote hfound hcolon hgives
                  split at h
                  · next after hafter =>
                      obtain ⟨others, hothers, rfl⟩ := h.of_widen
                      exact ⟨_, _, others, inner, rfl, hstarts, .more hafter hothers⟩
                  · next after hafter =>
                      obtain rfl := h.found_eq
                      obtain rfl : after = rest := Option.some.inj h.rest_eq
                      exact ⟨_, _, [], inner, rfl, hstarts, .last hafter rfl⟩
                  · cases h.rest_eq
          · cases h.rest_eq
  · cases h.rest_eq

-- The recursion is that of the scanner: what a container holds is shorter than the text from its
-- opening bracket on, and what follows an item is shorter than the text from the item on.
mutual

/-- A tree is read off characters that spell it, with the spacing around it. -/
theorem spells_of_scanTree (text : List Char) {tree : Tree} {rest : List Char}
    (h : (scanTree text).Gives tree rest) :
    ∃ spelled, SpellsPadded tree spelled ∧ text = spelled ++ skipSpacing rest := by
  have hspells : ∃ spelled, SpellsTree tree spelled ∧ skipSpacing text = spelled ++ rest := by
    cases startsTree_of_gives h with
    | @array inner _ _ hmark hfills =>
        have hshort := length_lt_of_skipSpacing hmark
        cases hfills with
        | empty hclosed hnil =>
            obtain ⟨blank, hblank, hinner⟩ := exists_blank inner
            subst hnil
            refine ⟨_, .emptyArray hblank, ?_⟩
            rw [hmark, hinner, hclosed]
            simp
        | items _ hgives =>
            obtain ⟨spelled, hspelled, hinner⟩ := spells_of_scanItems inner hgives
            refine ⟨_, .array hspelled, ?_⟩
            rw [hmark, hinner]
            simp
    | @object inner _ _ hmark hfills =>
        have hshort := length_lt_of_skipSpacing hmark
        cases hfills with
        | empty hclosed hnil =>
            obtain ⟨blank, hblank, hinner⟩ := exists_blank inner
            subst hnil
            refine ⟨_, .emptyObject hblank, ?_⟩
            rw [hmark, hinner, hclosed]
            simp
        | items _ hgives =>
            obtain ⟨spelled, hspelled, hinner⟩ := spells_of_scanEntries inner hgives
            refine ⟨_, .object hspelled, ?_⟩
            rw [hmark, hinner]
            simp
    | string hmark hgives =>
        obtain ⟨spelled, hspelled, heq⟩ := spells_of_scanString hgives
        exact ⟨spelled, .string hspelled, hmark.trans heq⟩
    | scalar hgives => exact spells_of_scanScalar hgives
  obtain ⟨spelled, hspelled, heq⟩ := hspells
  obtain ⟨before, hbefore, htext⟩ := exists_blank text
  obtain ⟨after, hafter, hrest⟩ := exists_blank rest
  refine ⟨_, .intro hbefore hspelled hafter, ?_⟩
  rw [htext, heq, List.append_assoc, List.append_assoc, ← hrest]
termination_by (text.length, 0)

/-- The items of an array are read off characters that spell them, up to its closing bracket. -/
theorem spells_of_scanItems (text : List Char) {items : List Tree} {rest : List Char}
    (h : (scanItems text).Gives items rest) :
    ∃ spelled, SpellsItems items spelled ∧ text = spelled ++ ']' :: rest := by
  obtain ⟨item, others, inner, rfl, hgives, hfollows⟩ := exists_item_of_gives h
  obtain ⟨hinner, -⟩ := hgives.exists_eq
  obtain ⟨spelled, hspelled, htext⟩ := spells_of_scanTree text hgives
  cases hfollows with
  | last hclosed hnil =>
      subst hnil
      rw [hclosed] at htext
      exact ⟨spelled, .last hspelled, htext⟩
  | @more next hcomma hothers =>
      have hshort := length_lt_of_skipSpacing hcomma
      obtain ⟨spelledOthers, hspelledOthers, hnext⟩ := spells_of_scanItems next hothers
      refine ⟨_, .cons hspelled hspelledOthers, ?_⟩
      rw [htext, hcomma, hnext]
      simp
termination_by (text.length, 1)

/-- The entries of an object are read off characters that spell them, up to its closing bracket. -/
theorem spells_of_scanEntries (text : List Char) {entries : List (Option String × Tree)}
    {rest : List Char} (h : (scanEntries text).Gives entries rest) :
    ∃ spelled, SpellsEntries entries spelled ∧ text = spelled ++ '\x7d' :: rest := by
  obtain ⟨key, tree, others, inner, rfl, hstarts, hfollows⟩ := exists_entry_of_gives h
  obtain @⟨afterQuote, afterKey, afterColon, hquote, hkey, hcolon, hvalue⟩ := hstarts
  have hafterQuote := length_lt_of_skipSpacing hquote
  obtain ⟨hafterKey, -⟩ := hkey.exists_eq
  have hafterColon := length_lt_of_skipSpacing hcolon
  obtain ⟨hinner, -⟩ := hvalue.exists_eq
  obtain ⟨before, hbefore, htext⟩ := exists_blank text
  obtain ⟨name, hname, hname_eq⟩ := spells_of_scanString hkey
  obtain ⟨between, hbetween, hbetween_eq⟩ := exists_blank afterKey
  obtain ⟨value, hspelled, hvalue_eq⟩ := spells_of_scanTree afterColon hvalue
  have hentry : SpellsEntry (key, tree) _ := .intro hbefore hname hbetween hspelled
  have hentry_eq : text = before ++ (name ++ (between ++ ':' :: value)) ++ skipSpacing inner := by
    rw [htext, hquote, hname_eq, hbetween_eq, hcolon, hvalue_eq]
    simp
  cases hfollows with
  | last hclosed hnil =>
      subst hnil
      rw [hclosed] at hentry_eq
      exact ⟨_, .last hentry, hentry_eq⟩
  | @more next hcomma hothers =>
      have hshort := length_lt_of_skipSpacing hcomma
      obtain ⟨spelledOthers, hspelledOthers, hnext⟩ := spells_of_scanEntries next hothers
      refine ⟨_, .cons hentry hspelledOthers, ?_⟩
      rw [hentry_eq, hcomma, hnext]
      simp
termination_by (text.length, 1)

end

/-- Whether a tree is a container whose closing bracket is there. -/
def Tree.isClosed : Tree → Bool
  | .array _ closed | .object _ closed => closed
  | _ => false

theorem scanScalar_isClosed (text : List Char) : (scanScalar text).found.isClosed = false := by
  unfold scanScalar
  split
  · rfl
  · rfl
  · rfl
  · split <;> rfl

/-- Nothing breaks off before the closing bracket of a container. -/
theorem isSome_of_isClosed (text : List Char) :
    (scanTree text).found.isClosed = true → (scanTree text).rest?.isSome = true := by
  rw [scanTree]
  split
  · split
    · exact fun _ => rfl
    · intro h
      exact Option.isSome_map.trans h
  · split
    · exact fun _ => rfl
    · intro h
      exact Option.isSome_map.trans h
  · intro h
    cases h
  · intro h
    exact absurd h (by simp [Scanned.widen, scanScalar_isClosed])

/-- A text whose tree is a closed container spells it, if nothing but spacing follows. -/
theorem Tree.spelledBy_of_isClosed {text : String} (hclosed : (Tree.ofText text).1.isClosed = true)
    (hended : (Tree.ofText text).2 = true) : (Tree.ofText text).1.SpelledBy text := by
  obtain ⟨⟨rest, hlength⟩, hrest⟩ := Option.isSome_iff_exists.mp (isSome_of_isClosed _ hclosed)
  have hgives := Scanned.gives_of_rest? hrest
  obtain ⟨spelled, hspelled, htext⟩ := spells_of_scanTree _ hgives
  have hempty :
      ((scanTree text.toList).rest?.all fun rest => (skipSpacing rest.1).isEmpty) = true := hended
  rw [hrest] at hempty
  have hnone : skipSpacing rest = [] := List.isEmpty_iff.mp hempty
  rw [hnone, List.append_nil] at htext
  rwa [SpelledBy, htext]

end ShapeCatalog.Json
