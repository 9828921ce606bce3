import ShapeCatalog.Proofs.Scanning

/-!
The grammar of JSON texts, and the scanner on them.  Which characters spell a tree is said by the
form of the tree: spacing may stand around every mark, a string may spell a character as itself or
escaped, and a number keeps its spelling.  Wherever such characters stand in a text, the scanner
reads the tree off them and leaves what follows.
-/

namespace ShapeCatalog.Json

def IsBlank (text : List Char) : Prop :=
  ∀ c ∈ text, isSpacing c = true

/-- Whether characters are digits, at least one. -/
structure IsDigits (text : List Char) : Prop where
  ne_nil : text ≠ []
  isDigit : ∀ c ∈ text, c.isDigit = true

/-- The characters after the whole digits of a number. -/
inductive SpellsFraction : Option (List Char) → List Char → Prop where
  | absent : SpellsFraction none []
  | given {digits : List Char} (run : IsDigits digits) :
      SpellsFraction (some digits) ('.' :: digits)

inductive SpellsSign : Bool → List Char → Prop where
  | minus : SpellsSign true ['-']
  | plus : SpellsSign false ['+']
  | absent : SpellsSign false []

inductive SpellsExponent : Option Exponent → List Char → Prop where
  | absent : SpellsExponent none []
  | given {mark : Char} {negative : Bool} {sign digits : List Char}
      (mark_eq : mark = 'e' ∨ mark = 'E') (signed : SpellsSign negative sign)
      (run : IsDigits digits) :
      SpellsExponent (some ⟨negative, digits⟩) (mark :: (sign ++ digits))

/-- The characters of a number.  No zero stands in front of other digits before the point. -/
inductive SpellsNumber : Literal → List Char → Prop where
  | intro {negative : Bool} {whole fraction exponent : List Char} {fraction? : Option (List Char)}
      {exponent? : Option Exponent} (run : IsDigits whole)
      (leading : whole.head? = some '0' → whole = ['0'])
      (spellsFraction : SpellsFraction fraction? fraction)
      (spellsExponent : SpellsExponent exponent? exponent) :
      SpellsNumber ⟨negative, whole, fraction?, exponent?⟩
        ((if negative then ['-'] else []) ++ (whole ++ (fraction ++ exponent)))

/-- The characters of a string between its quotes. -/
inductive SpellsPieces : List Piece → List Char → Prop where
  | nil : SpellsPieces [] []
  | unit {a b c d : Char} {unit : Nat} {pieces : List Piece} {text : List Char}
      (unit_eq : codeUnit? a b c d = some unit) (rest : SpellsPieces pieces text) :
      SpellsPieces (.ofUnit unit :: pieces) ('\\' :: 'u' :: a :: b :: c :: d :: text)
  | escaped {letter c : Char} {pieces : List Piece} {text : List Char}
      (escaped_eq : escaped? letter = some c) (rest : SpellsPieces pieces text) :
      SpellsPieces (.char c :: pieces) ('\\' :: letter :: text)
  | plain {c : Char} {pieces : List Piece} {text : List Char} (quote : c ≠ '"') (slash : c ≠ '\\')
      (control : ¬c < ' ') (rest : SpellsPieces pieces text) :
      SpellsPieces (.char c :: pieces) (c :: text)

inductive SpellsString : Option String → List Char → Prop where
  | intro {pieces : List Piece} {text : List Char} (spelled : SpellsPieces pieces text) :
      SpellsString ((Piece.join? pieces).map String.ofList) ('"' :: (text ++ ['"']))

mutual

/-- The characters of a tree, without spacing around them. -/
inductive SpellsTree : Tree → List Char → Prop where
  | null : SpellsTree .null ['n', 'u', 'l', 'l']
  | boolTrue : SpellsTree (.bool true) ['t', 'r', 'u', 'e']
  | boolFalse : SpellsTree (.bool false) ['f', 'a', 'l', 's', 'e']
  | number {literal : Literal} {text : List Char} (spelled : SpellsNumber literal text) :
      SpellsTree (.number literal) text
  | string {found : Option String} {text : List Char} (spelled : SpellsString found text) :
      SpellsTree (.string found) text
  | emptyArray {blank : List Char} (isBlank : IsBlank blank) :
      SpellsTree (.array [] true) ('[' :: (blank ++ [']']))
  | array {items : List Tree} {text : List Char} (spelled : SpellsItems items text) :
      SpellsTree (.array items true) ('[' :: (text ++ [']']))
  | emptyObject {blank : List Char} (isBlank : IsBlank blank) :
      SpellsTree (.object [] true) ('\x7b' :: (blank ++ ['\x7d']))
  | object {entries : List (Option String × Tree)} {text : List Char}
      (spelled : SpellsEntries entries text) :
      SpellsTree (.object entries true) ('\x7b' :: (text ++ ['\x7d']))

/-- The characters of a tree and the spacing around them. -/
inductive SpellsPadded : Tree → List Char → Prop where
  | intro {tree : Tree} {before text after : List Char} (isBlank_before : IsBlank before)
      (spelled : SpellsTree tree text) (isBlank_after : IsBlank after) :
      SpellsPadded tree (before ++ (text ++ after))

/-- The characters of the items of an array, with commas between them. -/
inductive SpellsItems : List Tree → List Char → Prop where
  | last {item : Tree} {text : List Char} (spelled : SpellsPadded item text) :
      SpellsItems [item] text
  | cons {item : Tree} {items : List Tree} {text others : List Char}
      (spelled : SpellsPadded item text) (rest : SpellsItems items others) :
      SpellsItems (item :: items) (text ++ ',' :: others)

/-- The characters of an entry, with the spacing around its key and its value. -/
inductive SpellsEntry : Option String × Tree → List Char → Prop where
  | intro {key : Option String} {tree : Tree} {before name between text : List Char}
      (isBlank_before : IsBlank before) (spelledKey : SpellsString key name)
      (isBlank_between : IsBlank between) (spelled : SpellsPadded tree text) :
      SpellsEntry (key, tree) (before ++ (name ++ (between ++ ':' :: text)))

/-- The characters of the entries of an object, with commas between them. -/
inductive SpellsEntries : List (Option String × Tree) → List Char → Prop where
  | last {entry : Option String × Tree} {text : List Char} (spelled : SpellsEntry entry text) :
      SpellsEntries [entry] text
  | cons {entry : Option String × Tree} {entries : List (Option String × Tree)}
      {text others : List Char} (spelled : SpellsEntry entry text)
      (rest : SpellsEntries entries others) :
      SpellsEntries (entry :: entries) (text ++ ',' :: others)

end

theorem skipSpacing_append {blank : List Char} (h : IsBlank blank) (text : List Char) :
    skipSpacing (blank ++ text) = skipSpacing text :=
  List.dropWhile_append_of_pos h

theorem endsNumber_append {blank rest : List Char} (hblank : IsBlank blank)
    (hrest : endsNumber rest = true) : endsNumber (blank ++ rest) = true := by
  cases blank with
  | nil => exact hrest
  | cons c others =>
      have hspacing : isSpacing c = true := hblank c List.mem_cons_self
      simp only [isSpacing, Bool.or_eq_true, decide_eq_true_eq] at hspacing
      rcases hspacing with ((rfl | rfl) | rfl) | rfl <;> rfl

theorem scanPieces_of_spells {pieces : List Piece} {text : List Char} (h : SpellsPieces pieces text)
    (rest : List Char) : scanPieces (text ++ '"' :: rest) = some (pieces, rest) := by
  induction h with
  | nil => rfl
  | unit hunit _ ih =>
      simp only [List.cons_append]
      rw [scanPieces, hunit, Option.bind_some, ih]
      rfl
  | @escaped letter c _ _ hescaped _ ih =>
      have hletter : letter ≠ 'u' := by
        rintro rfl
        cases hescaped
      rw [List.cons_append, List.cons_append, scanPieces_letter hescaped hletter, ih]
      rfl
  | plain hquote hslash hcontrol _ ih =>
      rw [List.cons_append, scanPieces_plain hquote hslash hcontrol, ih]
      rfl

/-- A string is read off its characters. -/
theorem gives_scanString_of_spells {found : Option String} {text : List Char}
    (h : SpellsString found text) (rest : List Char) : ∃ inner, text ++ rest = '"' :: inner ∧
      (scanString inner).Gives found rest := by
  obtain ⟨hpieces⟩ := h
  refine ⟨_, List.cons_append, gives_scanString ?_⟩
  rw [List.append_assoc]
  exact scanPieces_of_spells hpieces rest

section Numbers

variable {rest : List Char}

/-- Digits are read up to the first character that is none. -/
theorem IsDigits.scanPower? {digits : List Char} (h : IsDigits digits) (negative : Bool)
    (hrest : endsNumber rest = true) :
    scanPower? negative (digits ++ rest) = some (some ⟨negative, digits⟩, rest) := by
  have hends := endsDigits_of_endsNumber hrest
  rw [Json.scanPower?, digitRun_append h.isDigit hends, afterDigits_append h.isDigit hends,
    if_neg h.ne_nil]

/-- Digits start with no other mark. -/
theorem IsDigits.append_ne {digits : List Char} (h : IsDigits digits) {mark : Char}
    (hmark : mark.isDigit = false) (rest after : List Char) : digits ++ rest ≠ mark :: after := by
  obtain ⟨c, others, rfl⟩ := List.exists_cons_of_ne_nil h.ne_nil
  intro heq
  have hdigit := h.isDigit c List.mem_cons_self
  rw [(List.cons.inj heq).1, hmark] at hdigit
  cases hdigit

theorem scanExponent?_of_spells {exponent? : Option Exponent} {text : List Char}
    (h : SpellsExponent exponent? text) (hrest : endsNumber rest = true) :
    scanExponent? (text ++ rest) = some (exponent?, rest) := by
  cases h with
  | absent => exact scanExponent?_of_endsNumber hrest
  | @given mark negative sign digits hmark hsigned hrun =>
      rw [List.cons_append, List.append_assoc]
      have hpower := hrun.scanPower? negative hrest
      cases hsigned with
      | minus | plus => rcases hmark with rfl | rfl <;> exact hpower
      | absent =>
          rcases hmark with rfl | rfl <;> rw [List.nil_append, scanExponent?, hpower]
          all_goals exact hrun.append_ne (by decide) rest

theorem endsDigits_of_spellsExponent {exponent? : Option Exponent} {text : List Char}
    (h : SpellsExponent exponent? text) (hrest : endsNumber rest = true) :
    endsDigits (text ++ rest) = true := by
  cases h with
  | absent => exact endsDigits_of_endsNumber hrest
  | given hmark _ _ => rcases hmark with rfl | rfl <;> rfl

theorem scanFraction?_of_spells {fraction? : Option (List Char)} {exponent? : Option Exponent}
    {text exponent : List Char} (h : SpellsFraction fraction? text)
    (hexponent : SpellsExponent exponent? exponent) (hrest : endsNumber rest = true) :
    scanFraction? (text ++ (exponent ++ rest)) = some (fraction?, exponent ++ rest) := by
  cases h with
  | absent =>
      cases hexponent with
      | absent => exact scanFraction?_of_endsNumber hrest
      | given hmark _ _ => rcases hmark with rfl | rfl <;> rfl
  | @given digits hrun =>
      have hends := endsDigits_of_spellsExponent hexponent hrest
      rw [List.cons_append, scanFraction?, digitRun_append hrun.isDigit hends,
        afterDigits_append hrun.isDigit hends, if_neg hrun.ne_nil]

/-- A number is read off its characters if nothing follows that it could go on with. -/
theorem scanNumber?_of_spells {literal : Literal} {text : List Char} (h : SpellsNumber literal text)
    (hrest : endsNumber rest = true) : scanNumber? (text ++ rest) = some (literal, rest) := by
  obtain @⟨negative, whole, fraction, exponent, fraction?, exponent?, hrun, hleading, hfraction,
    hexponent⟩ := h
  have hends : endsDigits (fraction ++ (exponent ++ rest)) = true := by
    cases hfraction with
    | absent =>
        rw [List.nil_append]
        exact endsDigits_of_spellsExponent hexponent hrest
    | given _ => rfl
  have hwhole : scanWhole? (whole ++ (fraction ++ (exponent ++ rest)))
      = some (whole, fraction ++ (exponent ++ rest)) := by
    rw [scanWhole?, digitRun_append hrun.isDigit hends, afterDigits_append hrun.isDigit hends,
      if_neg]
    rintro (hnil | ⟨hzero, hmore⟩)
    · exact hrun.ne_nil hnil
    · exact hmore (hleading hzero)
  have hunsigned : scanUnsigned? negative (whole ++ (fraction ++ (exponent ++ rest)))
      = some (⟨negative, whole, fraction?, exponent?⟩, rest) := by
    simp only [scanUnsigned?, hwhole, Option.bind_some, Option.map_some,
      scanFraction?_of_spells hfraction hexponent hrest, scanExponent?_of_spells hexponent hrest]
  simp only [List.append_assoc]
  cases negative with
  | true => exact hunsigned
  | false =>
      rw [if_neg Bool.false_ne_true, List.nil_append, scanNumber?, hunsigned]
      exact hrun.append_ne (by decide) _

/-- A number starts with no mark of anything else. -/
theorem exists_eq_cons_of_spellsNumber {literal : Literal} {text : List Char}
    (h : SpellsNumber literal text) :
    ∃ c inner, text = c :: inner ∧ ∀ mark ∈ otherMarks, c ≠ mark := by
  obtain @⟨negative, whole, _, _, _, _, hrun, _, _, _⟩ := h
  cases negative with
  | true =>
      refine ⟨'-', _, rfl, ?_⟩
      rintro mark hmark rfl
      exact absurd hmark (by decide)
  | false =>
      obtain ⟨c, others, rfl⟩ := List.exists_cons_of_ne_nil hrun.ne_nil
      exact ⟨c, _, rfl, ne_of_isDigit (hrun.isDigit c List.mem_cons_self)⟩

end Numbers

/-- A tree starts with a mark of its own. -/
theorem exists_eq_cons_of_spellsTree {tree : Tree} {text : List Char} (h : SpellsTree tree text) :
    ∃ c inner, text = c :: inner ∧ isSpacing c = false ∧ c ≠ ']' := by
  cases h with
  | number hnumber =>
      obtain ⟨c, inner, rfl, hne⟩ := exists_eq_cons_of_spellsNumber hnumber
      exact ⟨c, inner, rfl, isSpacing_eq_false_of_ne hne, hne ']' (by decide)⟩
  | string hstring =>
      obtain ⟨_⟩ := hstring
      exact ⟨_, _, rfl, rfl, by decide⟩
  | _ => exact ⟨_, _, rfl, rfl, by decide⟩

/-- The spacing before a tree is skipped, and nothing of the tree is. -/
theorem skipSpacing_of_spellsTree {tree : Tree} {before text : List Char} (hbefore : IsBlank before)
    (h : SpellsTree tree text) (rest : List Char) :
    skipSpacing (before ++ (text ++ rest)) = text ++ rest := by
  obtain ⟨c, inner, rfl, hc, -⟩ := exists_eq_cons_of_spellsTree h
  rw [skipSpacing_append hbefore, List.cons_append, skipSpacing_cons hc]

theorem skipSpacing_ne_of_spellsPadded {tree : Tree} {text : List Char} (h : SpellsPadded tree text)
    (rest after : List Char) : skipSpacing (text ++ rest) ≠ ']' :: after := by
  obtain @⟨_, before, text, blank, hbefore, htree, -⟩ := h
  obtain ⟨c, inner, rfl, -, hne⟩ := exists_eq_cons_of_spellsTree htree
  rw [List.append_assoc, List.append_assoc, skipSpacing_of_spellsTree hbefore htree]
  exact fun heq => hne (List.cons.inj heq).1

theorem skipSpacing_ne_of_spellsItems {items : List Tree} {text : List Char}
    (h : SpellsItems items text) (rest after : List Char) :
    skipSpacing (text ++ rest) ≠ ']' :: after := by
  cases h with
  | last hitem => exact skipSpacing_ne_of_spellsPadded hitem rest after
  | cons hitem _ =>
      rw [List.append_assoc]
      exact skipSpacing_ne_of_spellsPadded hitem _ after

/-- After the spacing before it an entry starts with the quote of its key. -/
theorem exists_quote_of_spellsEntry {entry : Option String × Tree} {text : List Char}
    (h : SpellsEntry entry text) (rest : List Char) :
    ∃ inner, skipSpacing (text ++ rest) = '"' :: inner := by
  obtain ⟨hbefore, ⟨_⟩, _, _⟩ := h
  rw [List.append_assoc, skipSpacing_append hbefore]
  exact ⟨_, skipSpacing_cons rfl _⟩

theorem skipSpacing_ne_of_spellsEntries {entries : List (Option String × Tree)} {text : List Char}
    (h : SpellsEntries entries text) (rest after : List Char) :
    skipSpacing (text ++ rest) ≠ '\x7d' :: after := by
  have hquote : ∃ inner, skipSpacing (text ++ rest) = '"' :: inner := by
    cases h with
    | last hentry => exact exists_quote_of_spellsEntry hentry rest
    | cons hentry _ =>
        rw [List.append_assoc]
        exact exists_quote_of_spellsEntry hentry _
  obtain ⟨inner, hinner⟩ := hquote
  rw [hinner]
  exact fun heq => absurd (List.cons.inj heq).1 (by decide)

-- The characters of an item keep the spacing after it, which the scanner leaves to what follows.
-- So what is left after an item is that spacing first.
mutual

/-- A tree is read off its characters. -/
theorem gives_of_spellsTree {tree : Tree} {text whole rest : List Char}
    (hwhole : skipSpacing whole = text ++ rest) (hrest : endsNumber rest = true) :
    SpellsTree tree text → (scanTree whole).Gives tree rest
  | .null | .boolTrue | .boolFalse =>
      gives_scanTree_scalar hwhole (by decide) (Scanned.gives_intro _ _)
  | .number hnumber => by
      have hscan := scanNumber?_of_spells hnumber hrest
      obtain ⟨c, inner, rfl, hne⟩ := exists_eq_cons_of_spellsNumber hnumber
      refine gives_scanTree_scalar hwhole ?_ (gives_scanScalar_number ?_ hscan)
      · exact ⟨hne '[' (by decide), hne '\x7b' (by decide), hne '"' (by decide)⟩
      · exact ⟨hne 'n' (by decide), hne 't' (by decide), hne 'f' (by decide)⟩
  | .string hstring => by
      obtain ⟨inner, heq, hgives⟩ := gives_scanString_of_spells hstring rest
      exact gives_scanTree_string (hwhole.trans heq) hgives
  | .emptyArray hblank => by
      rw [List.cons_append, List.append_assoc] at hwhole
      exact gives_scanTree_array hwhole (.empty (skipSpacing_append hblank _) rfl)
  | .array hitems => by
      rw [List.cons_append, List.append_assoc] at hwhole
      refine gives_scanTree_array hwhole (.items (skipSpacing_ne_of_spellsItems hitems _) ?_)
      exact gives_of_spellsItems rest hitems
  | .emptyObject hblank => by
      rw [List.cons_append, List.append_assoc] at hwhole
      exact gives_scanTree_object hwhole (.empty (skipSpacing_append hblank _) rfl)
  | .object hentries => by
      rw [List.cons_append, List.append_assoc] at hwhole
      refine gives_scanTree_object hwhole (.items (skipSpacing_ne_of_spellsEntries hentries _) ?_)
      exact gives_of_spellsEntries rest hentries

theorem gives_of_spellsPadded {tree : Tree} {text : List Char} (rest : List Char)
    (hrest : endsNumber rest = true) : SpellsPadded tree text →
      ∃ after, IsBlank after ∧ (scanTree (text ++ rest)).Gives tree (after ++ rest)
  | .intro hbefore htree hafter => by
      rw [List.append_assoc, List.append_assoc]
      refine ⟨_, hafter, gives_of_spellsTree ?_ (endsNumber_append hafter hrest) htree⟩
      exact skipSpacing_of_spellsTree hbefore htree _

/-- The items of an array are read up to its closing bracket. -/
theorem gives_of_spellsItems {items : List Tree} {text : List Char} (rest : List Char) :
    SpellsItems items text → (scanItems (text ++ ']' :: rest)).Gives items rest
  | .last hitem => by
      obtain ⟨after, hafter, hgives⟩ := gives_of_spellsPadded (']' :: rest) rfl hitem
      exact gives_scanItems hgives (.last (skipSpacing_append hafter _) rfl)
  | .cons hitem hothers => by
      rw [List.append_assoc]
      obtain ⟨after, hafter, hgives⟩ := gives_of_spellsPadded (',' :: _) rfl hitem
      refine gives_scanItems hgives (.more (skipSpacing_append hafter _) ?_)
      exact gives_of_spellsItems rest hothers

theorem startsEntry_of_spellsEntry {entry : Option String × Tree} {text : List Char}
    (rest : List Char) (hrest : endsNumber rest = true) : SpellsEntry entry text →
      ∃ after, IsBlank after ∧ StartsEntry (text ++ rest) entry.1 entry.2 (after ++ rest)
  | .intro hbefore hkey hbetween htree => by
      obtain ⟨after, hafter, hgives⟩ := gives_of_spellsPadded rest hrest htree
      obtain ⟨inner, hquote, hfound⟩ := gives_scanString_of_spells hkey (_ ++ ':' :: (_ ++ rest))
      simp only [List.append_assoc, List.cons_append]
      refine ⟨after, hafter, .intro ?_ hfound (skipSpacing_append hbetween _) hgives⟩
      rw [skipSpacing_append hbefore, hquote, skipSpacing_cons rfl]

/-- The entries of an object are read up to its closing bracket. -/
theorem gives_of_spellsEntries {entries : List (Option String × Tree)} {text : List Char}
    (rest : List Char) :
    SpellsEntries entries text → (scanEntries (text ++ '\x7d' :: rest)).Gives entries rest
  | .last hentry => by
      obtain ⟨after, hafter, hstarts⟩ := startsEntry_of_spellsEntry ('\x7d' :: rest) rfl hentry
      exact gives_scanEntries hstarts (.last (skipSpacing_append hafter _) rfl)
  | .cons hentry hothers => by
      rw [List.append_assoc]
      obtain ⟨after, hafter, hstarts⟩ := startsEntry_of_spellsEntry (',' :: _) rfl hentry
      refine gives_scanEntries hstarts (.more (skipSpacing_append hafter _) ?_)
      exact gives_of_spellsEntries rest hothers

end

/-- Whether a text spells a tree, and nothing but spacing stands around it. -/
def Tree.SpelledBy (tree : Tree) (text : String) : Prop :=
  SpellsPadded tree text.toList

/-- The tree of a text is the one that it spells. -/
theorem Tree.ofText_of_spelledBy {tree : Tree} {text : String} (h : tree.SpelledBy text) :
    Tree.ofText text = (tree, true) := by
  obtain ⟨after, hafter, hgives⟩ := gives_of_spellsPadded [] rfl h
  rw [List.append_nil, List.append_nil] at hgives
  obtain ⟨_, hscanned⟩ := hgives.exists_eq
  have hskip : skipSpacing after = [] := by
    rw [← List.append_nil after, skipSpacing_append hafter]
    rfl
  rw [Tree.ofText, hscanned]
  show (tree, (skipSpacing after).isEmpty) = (tree, true)
  rw [hskip]
  rfl

end ShapeCatalog.Json
