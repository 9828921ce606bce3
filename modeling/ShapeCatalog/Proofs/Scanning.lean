import ShapeCatalog.Json.Tree

/-!
The scanner, step by step: what it reads off the front of a text when the parts of the text are
read, and how much of the text it leaves.  After a number must nothing follow that the number
could go on with.
-/

namespace ShapeCatalog.Json

/-- Whether a number ends before a text: the text starts with nothing that could go on with it. -/
def endsNumber (rest : List Char) : Bool :=
  rest.head?.all fun c => !(c.isDigit || c = '.' || c = 'e' || c = 'E')

/-- Whether a run of digits ends before a text. -/
def endsDigits (rest : List Char) : Bool :=
  rest.head?.all fun c => !c.isDigit

theorem endsDigits_of_endsNumber {rest : List Char} (h : endsNumber rest = true) :
    endsDigits rest = true := by
  cases rest with
  | nil => rfl
  | cons c rest =>
      simp only [endsNumber, List.head?_cons, Option.all_some, Bool.not_eq_true',
        Bool.or_eq_false_iff] at h
      simp [endsDigits, h.1.1.1]

theorem digitRun_append {digits rest : List Char} (hdigits : ∀ c ∈ digits, c.isDigit = true)
    (hrest : endsDigits rest = true) : digitRun (digits ++ rest) = digits := by
  rw [digitRun, List.takeWhile_append_of_pos hdigits]
  cases rest with
  | nil => simp
  | cons c rest =>
      have hc : c.isDigit = false := by
        simpa [endsDigits] using hrest
      simp [hc]

theorem afterDigits_append {digits rest : List Char} (hdigits : ∀ c ∈ digits, c.isDigit = true)
    (hrest : endsDigits rest = true) : afterDigits (digits ++ rest) = rest := by
  have hsplit : digitRun (digits ++ rest) ++ afterDigits (digits ++ rest) = digits ++ rest :=
    List.takeWhile_append_dropWhile
  rw [digitRun_append hdigits hrest] at hsplit
  exact List.append_cancel_left hsplit

theorem scanFraction?_of_endsNumber {rest : List Char} (h : endsNumber rest = true) :
    scanFraction? rest = some (none, rest) := by
  rw [scanFraction?]
  intro after heq
  rw [heq] at h
  exact absurd h (by simp [endsNumber])

theorem scanExponent?_of_endsNumber {rest : List Char} (h : endsNumber rest = true) :
    scanExponent? rest = some (none, rest) := by
  unfold scanExponent?
  split
  case h_7 => rfl
  all_goals exact absurd h (by simp [endsNumber])

/-- Spacing, and the marks that start or end something else than a number. -/
def otherMarks : List Char :=
  [' ', '\n', '\t', '\r', '[', ']', '\x7b', '"', 'n', 't', 'f']

theorem ne_of_isDigit {c : Char} (hc : c.isDigit = true) : ∀ mark ∈ otherMarks, c ≠ mark := by
  rintro mark hmark rfl
  have hnone : otherMarks.all (fun mark => !mark.isDigit) = true := rfl
  have hnot := List.all_eq_true.mp hnone c hmark
  rw [hc] at hnot
  cases hnot

theorem isSpacing_eq_false_of_ne {c : Char} (h : ∀ mark ∈ otherMarks, c ≠ mark) :
    isSpacing c = false := by
  simp [isSpacing, h ' ' (by decide), h '\n' (by decide), h '\t' (by decide), h '\r' (by decide)]

/-- Put a character in front of what was read of a string body. -/
def consChar (c : Char) : List Piece × List Char → List Piece × List Char :=
  fun (pieces, after) => (.char c :: pieces, after)

theorem scanPieces_letter {c letter : Char} (h : escaped? letter = some c) (hunit : letter ≠ 'u')
    (text : List Char) :
    scanPieces ('\\' :: letter :: text) = (scanPieces text).map (consChar c) := by
  rw [scanPieces, h]
  · rfl
  · rintro _ _ _ _ _ rfl
    exact absurd rfl hunit

theorem scanPieces_plain {c : Char} (hquote : c ≠ '"') (hslash : c ≠ '\\') (hcontrol : ¬c < ' ')
    (text : List Char) : scanPieces (c :: text) = (scanPieces text).map (consChar c) := by
  rw [scanPieces, if_neg hcontrol]
  · rfl
  · exact hquote
  · rintro _ _ _ _ _ rfl
    exact fun _ => hslash rfl
  · rintro _ _ rfl
    exact fun _ => hslash rfl

/-- Something is read off the front of a text, and so much is left of the text. -/
structure Scanned.Gives {α : Type} {text : List Char} (scanned : Scanned α text) (found : α)
    (rest : List Char) : Prop where
  found_eq : scanned.found = found
  rest_eq : scanned.rest?.map Subtype.val = some rest

theorem Scanned.gives_intro {α : Type} {text : List Char} (found : α)
    (rest : { rest : List Char // rest.length < text.length }) :
    (⟨found, some rest⟩ : Scanned α text).Gives found rest.1 :=
  ⟨rfl, rfl⟩

theorem Scanned.Gives.exists_eq {α : Type} {text rest : List Char} {scanned : Scanned α text}
    {found : α} (h : scanned.Gives found rest) :
    ∃ hlength : rest.length < text.length, scanned = ⟨found, some ⟨rest, hlength⟩⟩ := by
  obtain ⟨found', rest?⟩ := scanned
  obtain ⟨⟨after, hlength⟩, rfl, rfl⟩ := Option.map_eq_some_iff.mp h.rest_eq
  exact ⟨hlength, by rw [← h.found_eq]⟩

theorem Scanned.Gives.widen {α β : Type} {text inner rest : List Char} {scanned : Scanned α inner}
    {found : α} (h : scanned.Gives found rest) (f : α → β) (hlength : inner.length ≤ text.length) :
    (scanned.widen f hlength : Scanned β text).Gives (f found) rest := by
  obtain ⟨hrest, rfl⟩ := h.exists_eq
  exact gives_intro (f found) _

theorem gives_scanString {text rest : List Char} {pieces : List Piece}
    (h : scanPieces text = some (pieces, rest)) :
    (scanString text).Gives ((Piece.join? pieces).map String.ofList) rest := by
  rw [scanString]
  split
  · next hnone => rw [hnone] at h; cases h
  · next found after hsome =>
      rw [hsome] at h
      cases h
      exact Scanned.gives_intro _ _

section Trees

variable {text inner rest : List Char}

/-- What stands inside a container: nothing before its closing bracket, or items and the bracket. -/
inductive Fills {α : Type} (close : Char) (scan : (text : List Char) → Scanned (List α) text)
    (text : List Char) (items : List α) (rest : List Char) : Prop where
  | empty (closed : skipSpacing text = close :: rest) (none_left : items = [])
  | items (opened : ∀ after, skipSpacing text ≠ close :: after)
      (gives : (scan text).Gives items rest)

theorem gives_scanTree_array {items : List Tree} (h : skipSpacing text = '[' :: inner)
    (hfills : Fills ']' scanItems inner items rest) :
    (scanTree text).Gives (.array items true) rest := by
  rw [scanTree]
  split
  case h_1 found hfound =>
    obtain rfl := (List.cons.inj (h.symm.trans hfound)).2
    cases hfills with
    | empty hclosed hnil =>
        subst hnil
        split
        case h_1 after hafter =>
          obtain rfl := (List.cons.inj (hclosed.symm.trans hafter)).2
          exact Scanned.gives_intro _ _
        case h_2 hne => exact absurd hclosed (hne rest)
    | items hopened hgives =>
        obtain ⟨_, hscanned⟩ := hgives.exists_eq
        split
        case h_1 after hafter => exact absurd hafter (hopened after)
        case h_2 =>
          simp only [hscanned]
          exact Scanned.gives_intro _ _
  all_goals simp_all

theorem gives_scanTree_object {entries : List (Option String × Tree)}
    (h : skipSpacing text = '\x7b' :: inner)
    (hfills : Fills '\x7d' scanEntries inner entries rest) :
    (scanTree text).Gives (.object entries true) rest := by
  rw [scanTree]
  split
  case h_2 found hfound =>
    obtain rfl := (List.cons.inj (h.symm.trans hfound)).2
    cases hfills with
    | empty hclosed hnil =>
        subst hnil
        split
        case h_1 after hafter =>
          obtain rfl := (List.cons.inj (hclosed.symm.trans hafter)).2
          exact Scanned.gives_intro _ _
        case h_2 hne => exact absurd hclosed (hne rest)
    | items hopened hgives =>
        obtain ⟨_, hscanned⟩ := hgives.exists_eq
        split
        case h_1 after hafter => exact absurd hafter (hopened after)
        case h_2 =>
          simp only [hscanned]
          exact Scanned.gives_intro _ _
  all_goals simp_all

theorem gives_scanTree_string {found : Option String} (h : skipSpacing text = '"' :: inner)
    (hstring : (scanString inner).Gives found rest) :
    (scanTree text).Gives (.string found) rest := by
  rw [scanTree]
  split
  case h_3 found hfound =>
    obtain rfl := (List.cons.inj (h.symm.trans hfound)).2
    exact hstring.widen _ _
  all_goals simp_all

theorem gives_scanTree_scalar {tree : Tree} {c : Char} (h : skipSpacing text = c :: inner)
    (hc : c ≠ '[' ∧ c ≠ '\x7b' ∧ c ≠ '"') (hscalar : (scanScalar (c :: inner)).Gives tree rest) :
    (scanTree text).Gives tree rest := by
  obtain ⟨harray, hobject, hstring⟩ := hc
  rw [← h] at hscalar
  rw [scanTree]
  split
  case h_1 hfound => exact absurd (List.cons.inj (h.symm.trans hfound)).1 harray
  case h_2 hfound => exact absurd (List.cons.inj (h.symm.trans hfound)).1 hobject
  case h_3 hfound => exact absurd (List.cons.inj (h.symm.trans hfound)).1 hstring
  case h_4 => exact hscalar.widen id _

theorem gives_scanScalar_number {literal : Literal} {c : Char}
    (hc : c ≠ 'n' ∧ c ≠ 't' ∧ c ≠ 'f') (h : scanNumber? (c :: inner) = some (literal, rest)) :
    (scanScalar (c :: inner)).Gives (.number literal) rest := by
  obtain ⟨hnull, htrue, hfalse⟩ := hc
  rw [scanScalar]
  · split
    · next found after hfound =>
        rw [h] at hfound
        cases hfound
        exact Scanned.gives_intro _ _
    · next hnone =>
        rw [h] at hnone
        cases hnone
  · exact fun _ heq => hnull (List.cons.inj heq).1
  · exact fun _ heq => htrue (List.cons.inj heq).1
  · exact fun _ heq => hfalse (List.cons.inj heq).1

/-- What follows an item inside a container: its closing bracket, or a comma and the other items. -/
inductive Follows {α : Type} (close : Char) (scan : (text : List Char) → Scanned (List α) text)
    (text : List Char) (others : List α) (rest : List Char) : Prop where
  | last (closed : skipSpacing text = close :: rest) (none_left : others = [])
  | more {inner : List Char} (comma : skipSpacing text = ',' :: inner)
      (gives : (scan inner).Gives others rest)

theorem gives_scanItems {item : Tree} {others : List Tree}
    (hitem : (scanTree text).Gives item inner) (h : Follows ']' scanItems inner others rest) :
    (scanItems text).Gives (item :: others) rest := by
  obtain ⟨_, hscanned⟩ := hitem.exists_eq
  rw [scanItems, hscanned]
  dsimp only
  cases h with
  | last hclosed hnil =>
      subst hnil
      split
      case h_2 after hafter =>
        obtain rfl := (List.cons.inj (hclosed.symm.trans hafter)).2
        exact Scanned.gives_intro _ _
      all_goals simp_all
  | more hcomma hothers =>
      split
      case h_1 found hfound =>
        obtain rfl := (List.cons.inj (hcomma.symm.trans hfound)).2
        exact hothers.widen _ _
      all_goals simp_all

/-- An entry stands in front of a text, and so much is left of the text after it. -/
inductive StartsEntry (text : List Char) (key : Option String) (tree : Tree) (rest : List Char) :
    Prop where
  | intro {afterQuote afterKey afterColon : List Char}
      (quote : skipSpacing text = '"' :: afterQuote)
      (found : (scanString afterQuote).Gives key afterKey)
      (colon : skipSpacing afterKey = ':' :: afterColon)
      (value : (scanTree afterColon).Gives tree rest)

theorem gives_scanEntries {key : Option String} {tree : Tree}
    {others : List (Option String × Tree)} (hentry : StartsEntry text key tree inner)
    (h : Follows '\x7d' scanEntries inner others rest) :
    (scanEntries text).Gives ((key, tree) :: others) rest := by
  obtain ⟨hquote, hkey, hcolon, hvalue⟩ := hentry
  obtain ⟨_, hkeyScanned⟩ := hkey.exists_eq
  obtain ⟨_, hvalueScanned⟩ := hvalue.exists_eq
  rw [scanEntries]
  split
  case h_2 hne => exact absurd hquote (hne _)
  case h_1 afterQuote hfound =>
    obtain rfl := (List.cons.inj (hquote.symm.trans hfound)).2
    rw [hkeyScanned]
    dsimp only
    split
    case h_2 hne => exact absurd hcolon (hne _)
    case h_1 afterColon hafterColon =>
      obtain rfl := (List.cons.inj (hcolon.symm.trans hafterColon)).2
      rw [hvalueScanned]
      dsimp only
      cases h with
      | last hclosed hnil =>
          subst hnil
          split
          case h_2 after hafter =>
            obtain rfl := (List.cons.inj (hclosed.symm.trans hafter)).2
            exact Scanned.gives_intro _ _
          all_goals simp_all
      | more hcomma hothers =>
          split
          case h_1 found hfound =>
            obtain rfl := (List.cons.inj (hcomma.symm.trans hfound)).2
            exact hothers.widen _ _
          all_goals simp_all

end Trees

theorem skipSpacing_cons {c : Char} (h : isSpacing c = false) (text : List Char) :
    skipSpacing (c :: text) = c :: text := by
  rw [skipSpacing, List.dropWhile_cons_of_neg]
  rw [h]
  exact Bool.false_ne_true

end ShapeCatalog.Json
