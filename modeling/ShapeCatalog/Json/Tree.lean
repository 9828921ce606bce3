import ShapeCatalog.Json.Number

/-!
The tree of a JSON text.  Reading never fails: a text that breaks the grammar gives the tree of what
stands before the break, with the containers that were open there left unclosed.  A reader of the
tree therefore meets the faults of a text in the order in which they stand in it.
-/

namespace ShapeCatalog.Json

/-- A JSON text as spelled, up to the first break of the grammar.  A string is `none` if it spells
half of a surrogate pair, so that it has no text. -/
inductive Tree where
  | null
  | bool (value : Bool)
  | number (literal : Literal)
  | string (text : Option String)
  | array (items : List Tree) (closed : Bool)
  | object (entries : List (Option String × Tree)) (closed : Bool)
  | broken

/-- Something read off the front of a text, and the rest of the text; no rest after a break. -/
structure Scanned (α : Type) (text : List Char) where
  found : α
  rest? : Option { rest : List Char // rest.length < text.length }

/-- Whether a character may stand between the marks of a text. -/
def isSpacing (c : Char) : Bool :=
  c = ' ' || c = '\n' || c = '\t' || c = '\r'

def skipSpacing (text : List Char) : List Char :=
  text.dropWhile isSpacing

theorem length_dropWhile_le {α : Type} (p : α → Bool) (xs : List α) :
    (xs.dropWhile p).length ≤ xs.length :=
  (List.dropWhile_suffix p).length_le

theorem length_skipSpacing_le (text : List Char) : (skipSpacing text).length ≤ text.length :=
  length_dropWhile_le isSpacing text

theorem length_lt_of_skipSpacing {text inner : List Char} {c : Char}
    (h : skipSpacing text = c :: inner) : inner.length < text.length := by
  have hle := length_skipSpacing_le text
  simp only [h, List.length_cons] at hle
  omega

/-- A part of a string body: a character, or a half of a surrogate pair. -/
inductive Piece where
  | char (c : Char)
  | surrogate (unit : Nat)
deriving Repr, DecidableEq

namespace Piece

/-- The piece that an escaped code unit spells. -/
def ofUnit (unit : Nat) : Piece :=
  if 0xD800 ≤ unit ∧ unit < 0xE000 then .surrogate unit else .char (Char.ofNat unit)

/-- The character of a pair of surrogates, a high one before a low one. -/
def pair? (high low : Nat) : Option Char :=
  if high < 0xDC00 ∧ 0xDC00 ≤ low then
    some (Char.ofNat (0x10000 + (high - 0xD800) * 0x400 + (low - 0xDC00)))
  else none

/-- The characters that a list of pieces spells; nothing if a surrogate stands alone. -/
def join? : List Piece → Option (List Char)
  | [] => some []
  | .char c :: rest => (join? rest).map (c :: ·)
  | .surrogate high :: .surrogate low :: rest =>
      (pair? high low).bind fun c => (join? rest).map (c :: ·)
  | .surrogate _ :: _ => none

end Piece

/-- The value of a hexadecimal digit. -/
def hexValue? (c : Char) : Option Nat :=
  if c.isDigit then some (c.toNat - '0'.toNat)
  else if 'a' ≤ c ∧ c ≤ 'f' then some (c.toNat - 'a'.toNat + 10)
  else if 'A' ≤ c ∧ c ≤ 'F' then some (c.toNat - 'A'.toNat + 10)
  else none

/-- The code unit that four hexadecimal digits spell. -/
def codeUnit? (a b c d : Char) : Option Nat :=
  match hexValue? a, hexValue? b, hexValue? c, hexValue? d with
  | some a, some b, some c, some d => some (((a * 16 + b) * 16 + c) * 16 + d)
  | _, _, _, _ => none

/-- The character that a letter after a backslash stands for. -/
def escaped? : Char → Option Char
  | '"' => some '"'
  | '\\' => some '\\'
  | '/' => some '/'
  | 'b' => some '\x08'
  | 'f' => some '\x0c'
  | 'n' => some '\x0a'
  | 'r' => some '\x0d'
  | 't' => some '\x09'
  | _ => none

/-- Read the body of a string and its closing quote. -/
def scanPieces : List Char → Option (List Piece × List Char)
  | [] => none
  | '"' :: rest => some ([], rest)
  | '\\' :: 'u' :: a :: b :: c :: d :: rest =>
      (codeUnit? a b c d).bind fun unit =>
        (scanPieces rest).map fun (pieces, after) => (Piece.ofUnit unit :: pieces, after)
  | '\\' :: c :: rest =>
      (escaped? c).bind fun plain =>
        (scanPieces rest).map fun (pieces, after) => (Piece.char plain :: pieces, after)
  | c :: rest =>
      if c < ' ' then none
      else (scanPieces rest).map fun (pieces, after) => (Piece.char c :: pieces, after)

theorem length_scanPieces {text after : List Char} {pieces : List Piece}
    (h : scanPieces text = some (pieces, after)) : after.length < text.length := by
  fun_induction scanPieces text generalizing pieces with
  | case1 => simp at h
  | case2 rest =>
      simp only [Option.some.injEq, Prod.mk.injEq] at h
      simp [h.2]
  | case3 a b c d rest ih =>
      simp only [Option.bind_eq_some_iff, Option.map_eq_some_iff, Prod.mk.injEq] at h
      obtain ⟨_, _, ⟨p, q⟩, hscan, _, rfl⟩ := h
      have hshort : q.length < rest.length := ih hscan
      simp only [List.length_cons]
      omega
  | case4 c rest _ ih =>
      simp only [Option.bind_eq_some_iff, Option.map_eq_some_iff, Prod.mk.injEq] at h
      obtain ⟨_, _, ⟨p, q⟩, hscan, _, rfl⟩ := h
      have hshort : q.length < rest.length := ih hscan
      simp only [List.length_cons]
      omega
  | case5 => simp at h
  | case6 c rest _ _ _ _ ih =>
      simp only [Option.map_eq_some_iff, Prod.mk.injEq] at h
      obtain ⟨⟨p, q⟩, hscan, _, rfl⟩ := h
      have hshort : q.length < rest.length := ih hscan
      simp only [List.length_cons]
      omega

/-- Read a string after its opening quote. -/
def scanString (text : List Char) : Scanned (Option String) text :=
  match h : scanPieces text with
  | none => ⟨none, none⟩
  | some (pieces, after) =>
      ⟨(Piece.join? pieces).map String.ofList, some ⟨after, length_scanPieces h⟩⟩

def digitRun (text : List Char) : List Char :=
  text.takeWhile Char.isDigit

def afterDigits (text : List Char) : List Char :=
  text.dropWhile Char.isDigit

theorem length_afterDigits_le (text : List Char) : (afterDigits text).length ≤ text.length :=
  length_dropWhile_le Char.isDigit text

theorem length_afterDigits_lt {text : List Char} (h : digitRun text ≠ []) :
    (afterDigits text).length < text.length := by
  have hsplit : (digitRun text ++ afterDigits text).length = text.length := by
    rw [digitRun, afterDigits, List.takeWhile_append_dropWhile]
  have hpos : 0 < (digitRun text).length := List.length_pos_iff.mpr h
  rw [List.length_append] at hsplit
  omega

/-- Read the digits before the point: a single zero, or a run that starts with no zero. -/
def scanWhole? (text : List Char) : Option (List Char × List Char) :=
  let digits := digitRun text
  if digits = [] ∨ (digits.head? = some '0' ∧ digits ≠ ['0']) then none
  else some (digits, afterDigits text)

/-- Read a point with the digits after it, if there is one. -/
def scanFraction? : List Char → Option (Option (List Char) × List Char)
  | '.' :: rest =>
      if digitRun rest = [] then none else some (some (digitRun rest), afterDigits rest)
  | text => some (none, text)

def scanPower? (negative : Bool) (text : List Char) : Option (Option Exponent × List Char) :=
  if digitRun text = [] then none else some (some ⟨negative, digitRun text⟩, afterDigits text)

def scanExponent? : List Char → Option (Option Exponent × List Char)
  | 'e' :: '-' :: rest | 'E' :: '-' :: rest => scanPower? true rest
  | 'e' :: '+' :: rest | 'E' :: '+' :: rest => scanPower? false rest
  | 'e' :: rest | 'E' :: rest => scanPower? false rest
  | text => some (none, text)

/-- Read the number whose sign has been read. -/
def scanUnsigned? (negative : Bool) (text : List Char) : Option (Literal × List Char) :=
  (scanWhole? text).bind fun (whole, afterWhole) =>
    (scanFraction? afterWhole).bind fun (fraction, afterFraction) =>
      (scanExponent? afterFraction).map fun (exponent, rest) =>
        (⟨negative, whole, fraction, exponent⟩, rest)

theorem length_scanWhole {text after digits : List Char}
    (h : scanWhole? text = some (digits, after)) : after.length < text.length := by
  simp only [scanWhole?] at h
  split at h
  · simp at h
  · simp only [Option.some.injEq, Prod.mk.injEq] at h
    rename_i hdigits
    rw [← h.2]
    exact length_afterDigits_lt fun hnil => hdigits (Or.inl hnil)

theorem length_scanFraction {text after : List Char} {digits : Option (List Char)}
    (h : scanFraction? text = some (digits, after)) : after.length ≤ text.length := by
  unfold scanFraction? at h
  split at h
  · split at h
    · simp at h
    · simp only [Option.some.injEq, Prod.mk.injEq] at h
      rw [← h.2]
      exact Nat.le_succ_of_le (length_afterDigits_le _)
  · simp only [Option.some.injEq, Prod.mk.injEq] at h
    exact Nat.le_of_eq (congrArg List.length h.2.symm)

theorem length_scanPower {text after : List Char} {negative : Bool} {exponent : Option Exponent}
    (h : scanPower? negative text = some (exponent, after)) : after.length ≤ text.length := by
  unfold scanPower? at h
  split at h
  · simp at h
  · simp only [Option.some.injEq, Prod.mk.injEq] at h
    rw [← h.2]
    exact length_afterDigits_le _

theorem length_scanExponent {text after : List Char} {exponent : Option Exponent}
    (h : scanExponent? text = some (exponent, after)) : after.length ≤ text.length := by
  unfold scanExponent? at h
  split at h
  case h_7 =>
    simp only [Option.some.injEq, Prod.mk.injEq] at h
    exact Nat.le_of_eq (congrArg List.length h.2.symm)
  all_goals
    have hpower := length_scanPower h
    simp only [List.length_cons]
    omega

theorem length_scanUnsigned {text after : List Char} {negative : Bool} {literal : Literal}
    (h : scanUnsigned? negative text = some (literal, after)) : after.length < text.length := by
  simp only [scanUnsigned?, Option.bind_eq_some_iff, Option.map_eq_some_iff, Prod.mk.injEq] at h
  obtain ⟨⟨_, first⟩, hwhole, ⟨_, second⟩, hfraction, ⟨_, third⟩, hexponent, _, rfl⟩ := h
  have h1 : first.length < text.length := length_scanWhole hwhole
  have h2 : second.length ≤ first.length := length_scanFraction hfraction
  have h3 : third.length ≤ second.length := length_scanExponent hexponent
  show third.length < text.length
  omega

def scanNumber? : List Char → Option (Literal × List Char)
  | '-' :: rest => scanUnsigned? true rest
  | text => scanUnsigned? false text

theorem length_scanNumber {text after : List Char} {literal : Literal}
    (h : scanNumber? text = some (literal, after)) : after.length < text.length := by
  unfold scanNumber? at h
  split at h
  · have hrest := length_scanUnsigned h
    simp only [List.length_cons]
    omega
  · exact length_scanUnsigned h

def scanScalar (text : List Char) : Scanned Tree text :=
  match text with
  | 'n' :: 'u' :: 'l' :: 'l' :: rest =>
      ⟨.null, some ⟨rest, by simp only [List.length_cons]; omega⟩⟩
  | 't' :: 'r' :: 'u' :: 'e' :: rest =>
      ⟨.bool true, some ⟨rest, by simp only [List.length_cons]; omega⟩⟩
  | 'f' :: 'a' :: 'l' :: 's' :: 'e' :: rest =>
      ⟨.bool false, some ⟨rest, by simp only [List.length_cons]; omega⟩⟩
  | text =>
      match h : scanNumber? text with
      | some (literal, rest) => ⟨.number literal, some ⟨rest, length_scanNumber h⟩⟩
      | none => ⟨.broken, none⟩

/-- Read off a longer text what was read off its end. -/
def Scanned.widen {α β : Type} {text inner : List Char} (f : α → β) (scanned : Scanned α inner)
    (h : inner.length ≤ text.length) : Scanned β text :=
  ⟨f scanned.found, scanned.rest?.map fun rest => ⟨rest.1, Nat.lt_of_lt_of_le rest.2 h⟩⟩

mutual

/-- Read one value, with the spacing in front of it. -/
def scanTree (text : List Char) : Scanned Tree text :=
  match h : skipSpacing text with
  | '[' :: inner =>
      have hinner := length_lt_of_skipSpacing h
      match h' : skipSpacing inner with
      | ']' :: rest =>
          have hrest := length_lt_of_skipSpacing h'
          ⟨.array [] true, some ⟨rest, by omega⟩⟩
      | _ =>
          let items := scanItems inner
          ⟨.array items.found items.rest?.isSome,
            items.rest?.map fun ⟨rest, hrest⟩ => ⟨rest, by omega⟩⟩
  | '\x7b' :: inner =>
      have hinner := length_lt_of_skipSpacing h
      match h' : skipSpacing inner with
      | '\x7d' :: rest =>
          have hrest := length_lt_of_skipSpacing h'
          ⟨.object [] true, some ⟨rest, by omega⟩⟩
      | _ =>
          let entries := scanEntries inner
          ⟨.object entries.found entries.rest?.isSome,
            entries.rest?.map fun ⟨rest, hrest⟩ => ⟨rest, by omega⟩⟩
  | '"' :: inner =>
      have hinner := length_lt_of_skipSpacing h
      (scanString inner).widen .string (by omega)
  | inner =>
      (scanScalar inner).widen id (h ▸ length_skipSpacing_le text)
termination_by (text.length, 0)

/-- Read the items of an array, at least one, and its closing bracket. -/
def scanItems (text : List Char) : Scanned (List Tree) text :=
  let item := scanTree text
  match item.rest? with
  | none => ⟨[item.found], none⟩
  | some ⟨afterItem, hitem⟩ =>
      match h : skipSpacing afterItem with
      | ',' :: inner =>
          have hinner := length_lt_of_skipSpacing h
          (scanItems inner).widen (item.found :: ·) (by omega)
      | ']' :: rest =>
          have hrest := length_lt_of_skipSpacing h
          ⟨[item.found], some ⟨rest, by omega⟩⟩
      | _ => ⟨[item.found], none⟩
termination_by (text.length, 1)

/-- Read the entries of an object, at least one, and its closing bracket. -/
def scanEntries (text : List Char) : Scanned (List (Option String × Tree)) text :=
  match h : skipSpacing text with
  | '"' :: afterQuote =>
      have hquote := length_lt_of_skipSpacing h
      let key := scanString afterQuote
      match key.rest? with
      | none => ⟨[], none⟩
      | some ⟨afterKey, hkey⟩ =>
          match h' : skipSpacing afterKey with
          | ':' :: afterColon =>
              have hcolon := length_lt_of_skipSpacing h'
              let value := scanTree afterColon
              match value.rest? with
              | none => ⟨[(key.found, value.found)], none⟩
              | some ⟨afterValue, hvalue⟩ =>
                  match h'' : skipSpacing afterValue with
                  | ',' :: inner =>
                      have hinner := length_lt_of_skipSpacing h''
                      (scanEntries inner).widen ((key.found, value.found) :: ·) (by omega)
                  | '\x7d' :: rest =>
                      have hrest := length_lt_of_skipSpacing h''
                      ⟨[(key.found, value.found)], some ⟨rest, by omega⟩⟩
                  | _ => ⟨[(key.found, value.found)], none⟩
          | _ => ⟨[(key.found, .broken)], none⟩
  | _ => ⟨[], none⟩
termination_by (text.length, 1)

end

/-- The tree of a text, and whether nothing but spacing follows it. -/
def Tree.ofText (text : String) : Tree × Bool :=
  let scanned := scanTree text.toList
  (scanned.found, scanned.rest?.all fun rest => (skipSpacing rest.1).isEmpty)

end ShapeCatalog.Json
