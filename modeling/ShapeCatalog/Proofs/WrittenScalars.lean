import ShapeCatalog.Json.Value
import ShapeCatalog.Proofs.RereadNumbers
import ShapeCatalog.Proofs.SpelledText

/-!
Written numbers and strings.  What a number is written as spells its literal, and what a string is
written as spells the string, whichever of its characters are escaped.
-/

namespace ShapeCatalog.Json

/-- The digits of a number start with a zero only if it is zero. -/
theorem head?_toDigits {n : Nat} (hpos : 0 < n) : (Nat.toDigits 10 n).head? ≠ some '0' := by
  induction n using Nat.strongRecOn with
  | ind n ih =>
      rw [Nat.toDigits_eq_if (by decide)]
      by_cases hlt : n < 10
      · rw [if_pos hlt, List.head?_cons]
        have hdigit : ∀ digit < 10, 0 < digit → some digit.digitChar ≠ some '0' := by decide
        exact hdigit n hlt hpos
      · have hless := ih (n / 10) (Nat.div_lt_self hpos (by decide))
          (Nat.div_pos (by omega) (by decide))
        rw [if_neg hlt, List.head?_append]
        cases hdigits : Nat.toDigits 10 (n / 10) with
        | nil => exact absurd hdigits Nat.toDigits_ne_nil
        | cons c cs => rwa [hdigits] at hless

theorem eq_zero_of_head?_toDigits {n : Nat} (h : (Nat.toDigits 10 n).head? = some '0') : n = 0 := by
  rcases Nat.eq_zero_or_pos n with hzero | hpos
  · exact hzero
  · exact absurd h (head?_toDigits hpos)

theorem isDigits_toDigits (n : Nat) : IsDigits (Nat.toDigits 10 n) where
  ne_nil := Nat.toDigits_ne_nil
  isDigit _ hc := Nat.isDigit_of_mem_toDigits (by decide) (by decide) hc

namespace IsDigits

variable {digits : List Char}

theorem take (h : IsDigits digits) {place : Nat} (hpos : 0 < place) :
    IsDigits (digits.take place) where
  ne_nil heq := (List.take_eq_nil_iff.mp heq).elim (Nat.ne_of_gt hpos) h.ne_nil
  isDigit c hc := h.isDigit c (List.mem_of_mem_take hc)

theorem drop (h : IsDigits digits) {place : Nat} (hlt : place < digits.length) :
    IsDigits (digits.drop place) where
  ne_nil heq := Nat.not_le_of_lt hlt (List.drop_eq_nil_iff.mp heq)
  isDigit c hc := h.isDigit c (List.mem_of_mem_drop hc)

theorem isDigit_zeros (zeros : Nat) : ∀ c ∈ List.replicate zeros '0', c.isDigit = true := by
  intro c hc
  rw [List.eq_of_mem_replicate hc]
  rfl

theorem append_zeros (h : IsDigits digits) (zeros : Nat) :
    IsDigits (digits ++ List.replicate zeros '0') where
  ne_nil heq := h.ne_nil (List.append_eq_nil_iff.mp heq).1
  isDigit := List.forall_mem_append.mpr ⟨h.isDigit, isDigit_zeros zeros⟩

theorem zeros_append (h : IsDigits digits) (zeros : Nat) :
    IsDigits (List.replicate zeros '0' ++ digits) where
  ne_nil heq := h.ne_nil (List.append_eq_nil_iff.mp heq).2
  isDigit := List.forall_mem_append.mpr ⟨isDigit_zeros zeros, h.isDigit⟩

theorem zero : IsDigits ['0'] where
  ne_nil := List.cons_ne_nil _ _
  isDigit := List.forall_mem_singleton.mpr rfl

end IsDigits

namespace Literal

theorem spellsFraction_render {fraction? : Option (List Char)}
    (h : ∀ digits ∈ fraction?, IsDigits digits) :
    SpellsFraction fraction? (renderFraction fraction?) := by
  cases fraction? with
  | none => exact .absent
  | some digits => exact .given (h digits rfl)

theorem spellsExponent_render {exponent? : Option Exponent}
    (h : ∀ exponent ∈ exponent?, IsDigits exponent.digits) :
    SpellsExponent exponent? (renderExponent exponent?) := by
  cases exponent? with
  | none => exact .absent
  | some exponent =>
      obtain ⟨negative, digits⟩ := exponent
      cases negative with
      | true => exact .given (.inl rfl) .minus (h _ rfl)
      | false => exact .given (.inl rfl) .plus (h _ rfl)

/-- A literal that keeps to the grammar is spelled by what it is written as. -/
theorem spellsNumber_render {literal : Literal} (hwhole : IsDigits literal.whole)
    (hleading : literal.whole.head? = some '0' → literal.whole = ['0'])
    (hfraction : ∀ digits ∈ literal.fraction, IsDigits digits)
    (hexponent : ∀ exponent ∈ literal.exponent, IsDigits exponent.digits) :
    SpellsNumber literal literal.render :=
  .intro hwhole hleading (spellsFraction_render hfraction) (spellsExponent_render hexponent)

theorem spellsNumber_ofInteger (value : Int) :
    SpellsNumber (.ofInteger value) (ofInteger value).render := by
  refine spellsNumber_render (isDigits_toDigits _) (fun hzero => ?_) nofun nofun
  rw [ofInteger, eq_zero_of_head?_toDigits hzero, Nat.toDigits_zero]

theorem toDigits_eq_zero {n : Nat} (hzero : (Nat.toDigits 10 n).head? = some '0') :
    Nat.toDigits 10 n = ['0'] := by
  rw [eq_zero_of_head?_toDigits hzero, Nat.toDigits_zero]

/-- Wherever its point is, the literal of a decimal keeps to the grammar, if zero
has no exponent. -/
theorem Pointed.spellsNumber {negative : Bool} {d : Decimal} {literal : Literal}
    (h : Pointed negative d (Nat.toDigits 10 d.digits) literal)
    (hexponent : d.digits = 0 → d.exponent = 0) : SpellsNumber literal literal.render := by
  have hdigits := isDigits_toDigits d.digits
  have hne := hdigits.ne_nil
  cases h with
  | @last zeros hzeros hshort =>
      refine spellsNumber_render (hdigits.append_zeros zeros) ?_ ?_ nofun
      · intro hzero
        rw [List.head?_append_of_ne_nil _ hne] at hzero
        have hnone := hexponent (eq_zero_of_head?_toDigits hzero)
        obtain rfl : zeros = 0 := by omega
        rw [List.replicate_zero, List.append_nil, toDigits_eq_zero hzero]
      · rintro digits ⟨⟩
        exact .zero
  | @between place hpos hlt hplace =>
      refine spellsNumber_render (hdigits.take hpos) ?_ ?_ nofun
      · intro hzero
        rw [List.head?_take, if_neg (Nat.ne_of_gt hpos)] at hzero
        rw [toDigits_eq_zero hzero] at hlt
        exact absurd hlt (by simp; omega)
      · rintro digits ⟨⟩
        exact hdigits.drop hlt
  | @before zeros hzeros =>
      refine spellsNumber_render .zero (fun _ => rfl) ?_ nofun
      rintro digits ⟨⟩
      exact hdigits.zeros_append zeros
  | @single leading hone hleading =>
      refine spellsNumber_render hdigits toDigits_eq_zero nofun ?_
      rintro exponent ⟨⟩
      exact isDigits_toDigits _
  | @first leading hseveral hleading =>
      refine spellsNumber_render (hdigits.take Nat.one_pos) ?_ ?_ ?_
      · intro hzero
        rw [List.head?_take, if_neg Nat.one_ne_zero] at hzero
        rw [toDigits_eq_zero hzero] at hseveral
        exact absurd hseveral (Nat.lt_irrefl 1)
      · rintro digits ⟨⟩
        exact hdigits.drop hseveral
      · rintro exponent ⟨⟩
        exact isDigits_toDigits _

end Literal

/-- What a number is written as spells its literal. -/
theorem Number.spellsNumber_render (number : Number) :
    SpellsNumber number.toLiteral number.render := by
  cases number with
  | integer value => exact Literal.spellsNumber_ofInteger value
  | double x =>
      exact (Literal.pointed_ofDecimal x.negative x.decimal).spellsNumber x.exponent_decimal_of_zero

theorem hexValue?_digitChar {n : Nat} (h : n < 16) : hexValue? n.digitChar = some n := by
  have hall : ∀ n < 16, hexValue? (Nat.digitChar n) = some n := by decide
  exact hall n h

section Strings

variable {pieces : List Piece} {text : List Char}

/-- Controls are written as their code unit. -/
theorem spellsPieces_control {c : Char} (hcontrol : c < ' ') (h : SpellsPieces pieces text) :
    SpellsPieces (.char c :: pieces) ('\\' :: 'u' :: '0' :: '0' :: (c.toNat / 16).digitChar ::
      (c.toNat % 16).digitChar :: text) := by
  have hsmall : c.toNat < 32 := hcontrol
  have hunit : codeUnit? '0' '0' (c.toNat / 16).digitChar (c.toNat % 16).digitChar
      = some c.toNat := by
    have hzero : hexValue? '0' = some 0 := by decide
    rw [codeUnit?, hzero, hexValue?_digitChar (by omega), hexValue?_digitChar (by omega)]
    show some (((0 * 16 + 0) * 16 + c.toNat / 16) * 16 + c.toNat % 16) = some c.toNat
    congr 1
    omega
  have hpiece : Piece.ofUnit c.toNat = .char c := by
    rw [Piece.ofUnit, if_neg (by omega), Char.ofNat_toNat]
  rw [← hpiece]
  exact .unit hunit h

/-- What a character is written as spells it. -/
theorem spellsPieces_renderChar (c : Char) (h : SpellsPieces pieces text) :
    SpellsPieces (.char c :: pieces) (renderChar c ++ text) := by
  by_cases hescape : c = '"' ∨ c = '\\' ∨ c = '\x08' ∨ c = '\x09' ∨ c = '\x0a' ∨ c = '\x0c' ∨
      c = '\x0d'
  · rcases hescape with rfl | rfl | rfl | rfl | rfl | rfl | rfl
    all_goals exact .escaped rfl h
  · simp only [not_or] at hescape
    obtain ⟨hquote, hslash, h8, h9, ha, hc, hd⟩ := hescape
    simp only [renderChar, hquote, hslash, h8, h9, ha, hc, hd, if_false]
    by_cases hcontrol : c < ' '
    · rw [if_pos hcontrol]
      exact spellsPieces_control hcontrol h
    · rw [if_neg hcontrol]
      exact .plain hquote hslash hcontrol h

end Strings

theorem spellsPieces_render (chars : List Char) :
    SpellsPieces (chars.map .char) (chars.flatMap renderChar) := by
  induction chars with
  | nil => exact .nil
  | cons c chars ih =>
      rw [List.map_cons, List.flatMap_cons]
      exact spellsPieces_renderChar c ih

theorem join?_map_char (chars : List Char) : Piece.join? (chars.map .char) = some chars := by
  induction chars with
  | nil => rfl
  | cons c chars ih => rw [List.map_cons, Piece.join?, ih, Option.map_some]

theorem spellsString_renderString (s : String) : SpellsString (some s) (renderString s) := by
  have hspells : SpellsString _ _ := .intro (spellsPieces_render s.toList)
  rwa [join?_map_char, Option.map_some, String.ofList_toList] at hspells

end ShapeCatalog.Json
