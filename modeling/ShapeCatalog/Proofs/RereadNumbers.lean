import ShapeCatalog.Proofs.DoubleRange

/-!
Numbers read back from their literals.  An integer that fits 64 bits is read as itself.  The literal
of a double denotes exactly its shortest decimal, wherever the point stands, and is read as a double
again: not always as the same one, but never as none.
-/

namespace ShapeCatalog.Json

namespace Literal

section Significand

variable {digits : List Char} {significand : Nat}

theorem le_ofDigitChars (digits : List Char) (significand : Nat) :
    significand ≤ Nat.ofDigitChars 10 digits significand := by
  induction digits generalizing significand with
  | nil => exact Nat.le_refl _
  | cons c cs ih =>
      rw [Nat.ofDigitChars_cons]
      exact Nat.le_trans (by omega) (ih _)

/-- All digits are taken as long as they fit. -/
theorem extendWhole_of_lt (hfits : Nat.ofDigitChars 10 digits significand < unsignedBound) :
    extendWhole significand digits = (Nat.ofDigitChars 10 digits significand, 0) := by
  induction digits generalizing significand with
  | nil => rfl
  | cons c cs ih =>
      rw [Nat.ofDigitChars_cons] at hfits ⊢
      have hless := Nat.lt_of_le_of_lt (le_ofDigitChars cs _) hfits
      rw [extendWhole]
      simp only [if_pos hless]
      exact ih hfits

theorem extendFraction_of_lt (hfits : Nat.ofDigitChars 10 digits significand < unsignedBound) :
    extendFraction significand digits
      = (Nat.ofDigitChars 10 digits significand, digits.length) := by
  induction digits generalizing significand with
  | nil => rfl
  | cons c cs ih =>
      rw [Nat.ofDigitChars_cons] at hfits ⊢
      have hless := Nat.lt_of_le_of_lt (le_ofDigitChars cs _) hfits
      rw [extendFraction]
      simp only [if_pos hless, ih hfits]
      rfl

/-- A literal of few digits denotes all its digits, scaled down by those after the point. -/
theorem scaled_of_lt {literal : Literal}
    (hfits : natural (literal.whole ++ literal.fraction.getD []) < unsignedBound) :
    literal.scaled = (natural (literal.whole ++ literal.fraction.getD []),
      literal.power - (literal.fraction.getD []).length) := by
  rw [natural, Nat.ofDigitChars_append] at hfits ⊢
  have hwhole := Nat.lt_of_le_of_lt (le_ofDigitChars _ _) hfits
  simp only [scaled, extendWhole_of_lt hwhole, extendFraction_of_lt hfits]
  congr 1
  ring

end Significand

section OfDecimal

/-- Where the literal of a decimal has its point among the digits. -/
inductive Pointed (negative : Bool) (d : Decimal) (digits : List Char) : Literal → Prop where
  | last {zeros : Nat} (exponent_eq : d.exponent = zeros) (short : digits.length + zeros ≤ 16) :
      Pointed negative d digits
        ⟨negative, digits ++ List.replicate zeros '0', some ['0'], none⟩
  | between {place : Nat} (pos : 0 < place) (lt : place < digits.length)
      (exponent_eq : d.exponent = place - digits.length) :
      Pointed negative d digits ⟨negative, digits.take place, some (digits.drop place), none⟩
  | before {zeros : Nat} (exponent_eq : d.exponent = -(zeros + digits.length)) :
      Pointed negative d digits
        ⟨negative, ['0'], some (List.replicate zeros '0' ++ digits), none⟩
  | single {leading : Int} (one : digits.length = 1) (exponent_eq : d.exponent = leading) :
      Pointed negative d digits
        ⟨negative, digits, none, some ⟨leading < 0, Nat.toDigits 10 leading.natAbs⟩⟩
  | first {leading : Int} (several : 1 < digits.length)
      (exponent_eq : d.exponent = leading - (digits.length - 1)) :
      Pointed negative d digits ⟨negative, digits.take 1, some (digits.drop 1),
        some ⟨leading < 0, Nat.toDigits 10 leading.natAbs⟩⟩

theorem pointed_ofDecimal (negative : Bool) (d : Decimal) :
    Pointed negative d (Nat.toDigits 10 d.digits) (ofDecimal negative d) := by
  have hlength : 0 < (Nat.toDigits 10 d.digits).length := Nat.length_toDigits_pos
  rw [ofDecimal]
  generalize Nat.toDigits 10 d.digits = digits at hlength ⊢
  generalize hleading : d.exponent + digits.length - 1 = leading
  simp only
  split_ifs with hplain hwhole hpoint hsingle
  · exact .last (by omega) (by omega)
  · exact .between (by omega) (by omega) (by omega)
  · exact .before (by omega)
  · have hone : digits.length = 1 := by omega
    rw [List.take_of_length_le (by omega)]
    exact .single hone (by omega)
  · exact .first (by omega) (by omega)

/-- Whether a literal denotes a decimal, in few digits. -/
structure Denotes (literal : Literal) (d : Decimal) : Prop where
  digits_le : literal.scaled.1 ≤ 10 ^ 18
  value_eq : (literal.scaled.1 : ℚ) * 10 ^ literal.scaled.2 = d.value

variable {literal : Literal} {d : Decimal}

theorem denotes_of_natural {digits : Nat} {power : Int}
    (hdigits : natural (literal.whole ++ literal.fraction.getD []) = digits)
    (hpower : literal.power - (literal.fraction.getD []).length = power)
    (hle : digits ≤ 10 ^ 18) (hvalue : (digits : ℚ) * 10 ^ power = d.value) :
    literal.Denotes d := by
  have hfits : digits < unsignedBound := Nat.lt_of_le_of_lt hle (by decide)
  have hscaled : literal.scaled = (digits, power) := by
    rw [scaled_of_lt (by rwa [hdigits]), hdigits, hpower]
  exact ⟨by rwa [hscaled], by rwa [hscaled]⟩

theorem natural_toDigits (n : Nat) : natural (Nat.toDigits 10 n) = n :=
  Nat.ofDigitChars_ten_toDigits

theorem natural_append_zeros (digits : List Char) (zeros : Nat) :
    natural (digits ++ List.replicate zeros '0') = 10 ^ zeros * natural digits := by
  rw [natural, Nat.ofDigitChars_append, Nat.ofDigitChars_replicate_zero, natural]

theorem natural_zeros_append (digits : List Char) (zeros : Nat) :
    natural (List.replicate zeros '0' ++ digits) = natural digits := by
  rw [natural, Nat.ofDigitChars_append, Nat.ofDigitChars_replicate_zero, Nat.mul_zero, natural]

theorem power_given (negative : Bool) (whole : List Char) (fraction : Option (List Char))
    (leading : Int) : power ⟨negative, whole, fraction,
      some ⟨leading < 0, Nat.toDigits 10 leading.natAbs⟩⟩ = leading := by
  simp only [power, natural_toDigits, decide_eq_true_eq]
  split_ifs <;> omega

/-- Zeros before the point stand for a power of ten, and there are not too many of them. -/
theorem mul_pow_le {n zeros : Nat} (hshort : (Nat.toDigits 10 n).length + zeros ≤ 16) :
    10 ^ (zeros + 1) * n ≤ 10 ^ 18 := by
  have hless : n < 10 ^ (Nat.toDigits 10 n).length :=
    (Nat.length_toDigits_le_iff (by decide) Nat.length_toDigits_pos).mp (Nat.le_refl _)
  calc 10 ^ (zeros + 1) * n
      ≤ 10 ^ (zeros + 1) * 10 ^ (Nat.toDigits 10 n).length := Nat.mul_le_mul_left _ hless.le
    _ = 10 ^ (zeros + 1 + (Nat.toDigits 10 n).length) := (Nat.pow_add 10 _ _).symm
    _ ≤ 10 ^ 18 := Nat.pow_le_pow_right (by decide) (by omega)

/-- Wherever the point of a decimal is written, its literal denotes the decimal. -/
theorem Pointed.denotes {negative : Bool}
    (h : Pointed negative d (Nat.toDigits 10 d.digits) literal) (hle : d.digits ≤ 10 ^ 18) :
    literal.Denotes d := by
  have hnatural := natural_toDigits d.digits
  cases h with
  | @last zeros hexponent hshort =>
      have hdigits : natural (Nat.toDigits 10 d.digits ++ List.replicate zeros '0' ++ ['0'])
          = 10 ^ (zeros + 1) * d.digits := by
        rw [List.append_assoc, ← List.replicate_succ', natural_append_zeros, hnatural]
      refine denotes_of_natural hdigits (show (0 : Int) - 1 = -1 by decide) (mul_pow_le hshort) ?_
      rw [Decimal.value, hexponent, zpow_natCast, Nat.cast_mul, Nat.cast_pow, Nat.cast_ofNat,
        pow_succ, zpow_neg_one]
      ring
  | @between place hpos hlt hexponent =>
      refine denotes_of_natural ?_ ?_ hle rfl
      · rw [Option.getD_some, List.take_append_drop, hnatural]
      · show (0 : Int) - ((Nat.toDigits 10 d.digits).drop place).length = d.exponent
        rw [List.length_drop]
        omega
  | @before zeros hexponent =>
      refine denotes_of_natural ?_ ?_ hle rfl
      · exact (natural_zeros_append _ (zeros + 1)).trans hnatural
      · show (0 : Int) - (List.replicate zeros '0' ++ Nat.toDigits 10 d.digits).length = d.exponent
        rw [List.length_append, List.length_replicate]
        omega
  | @single leading hone hexponent =>
      refine denotes_of_natural ?_ ?_ hle rfl
      · rw [Option.getD_none, List.append_nil, hnatural]
      · rw [power_given]
        exact (sub_zero leading).trans hexponent.symm
  | @first leading hseveral hexponent =>
      refine denotes_of_natural ?_ ?_ hle rfl
      · rw [Option.getD_some, List.take_append_drop, hnatural]
      · rw [power_given, Option.getD_some, List.length_drop]
        omega

end OfDecimal

end Literal

/-- Integers come from literals that fit 64 bits. -/
theorem Literal.fits_of_toInteger? {literal : Literal} {value : Int}
    (h : literal.toInteger? = some value) : -signedBound ≤ value ∧ value < unsignedBound := by
  rw [toInteger?] at h
  split at h
  · cases h
  · simp only at h
    split at h
    · split at h
      · next hbound =>
          obtain rfl := Option.some.inj h
          omega
      · cases h
    · split at h
      · next hbound =>
          obtain rfl := Option.some.inj h
          omega
      · cases h

/-- What is written with a point or an exponent is no integer. -/
theorem Literal.toInteger?_ofDecimal (negative : Bool) (d : Decimal) :
    (Literal.ofDecimal negative d).toInteger? = none := by
  have hnot : (ofDecimal negative d).fraction.isSome || (ofDecimal negative d).exponent.isSome := by
    rw [ofDecimal]
    split_ifs <;> rfl
  rw [toInteger?, if_pos hnot]

namespace Number

/-- Whether a number fits 64 bits, as every double does. -/
def isRegular : Number → Bool
  | .integer value =>
      decide (-Literal.signedBound ≤ value) && decide (value < Literal.unsignedBound)
  | .double _ => true

theorem isRegular_of_ofLiteral? {literal : Literal} {number : Number}
    (h : Number.ofLiteral? literal = some number) : number.isRegular = true := by
  cases number with
  | double x => rfl
  | integer value =>
      rw [ofLiteral?] at h
      split at h
      · next hinteger =>
          obtain rfl := Number.integer.inj (Option.some.inj h)
          have hfits := Literal.fits_of_toInteger? hinteger
          rw [isRegular, Bool.and_eq_true, decide_eq_true_eq, decide_eq_true_eq]
          exact hfits
      · simp at h

theorem ofLiteral?_ofInteger {value : Int} (hregular : (Number.integer value).isRegular = true) :
    Number.ofLiteral? (.ofInteger value) = some (.integer value) := by
  rw [isRegular, Bool.and_eq_true, decide_eq_true_eq, decide_eq_true_eq] at hregular
  obtain ⟨hlow, hhigh⟩ := hregular
  have hdigits := Literal.natural_toDigits value.natAbs
  have hinteger : (Literal.ofInteger value).toInteger? = some value := by
    rw [Literal.toInteger?, Literal.ofInteger]
    simp only [Option.isSome_none, Bool.or_self, Bool.false_eq_true, if_false, hdigits,
      decide_eq_true_eq]
    by_cases hnegative : value < 0
    · have hbound : 0 < value.natAbs ∧ value.natAbs ≤ Literal.signedBound := by omega
      rw [if_pos hnegative, if_pos hbound]
      congr 1
      omega
    · have hbound : value.natAbs < Literal.unsignedBound := by omega
      rw [if_neg hnegative, if_pos hbound]
      congr 1
      omega
  rw [ofLiteral?, hinteger]

/-- Every double is read back as a double. -/
theorem exists_ofLiteral?_double (x : Double) :
    ∃ again, Number.ofLiteral? (Number.double x).toLiteral = some (.double again) := by
  have hdenotes := (Literal.pointed_ofDecimal x.negative x.decimal).denotes x.digits_decimal_le
  obtain ⟨again, hagain⟩ := Literal.exists_toDouble? hdenotes.digits_le
    (hdenotes.value_eq.trans_le x.value_decimal_le)
  refine ⟨again, ?_⟩
  rw [ofLiteral?, toLiteral, Literal.toInteger?_ofDecimal, hagain]
  rfl

/-- The number that is read from what a number is written as. -/
def reread (number : Number) : Number :=
  (Number.ofLiteral? number.toLiteral).getD number

/-- A number that fits is read from its literal. -/
theorem ofLiteral?_toLiteral {number : Number} (hregular : number.isRegular = true) :
    Number.ofLiteral? number.toLiteral = some number.reread := by
  obtain ⟨again, hagain⟩ : ∃ again, Number.ofLiteral? number.toLiteral = some again := by
    cases number with
    | integer value => exact ⟨_, ofLiteral?_ofInteger hregular⟩
    | double x =>
        obtain ⟨again, hagain⟩ := exists_ofLiteral?_double x
        exact ⟨_, hagain⟩
  rw [reread, hagain, Option.getD_some]

theorem reread_integer {value : Int} (hregular : (Number.integer value).isRegular = true) :
    (Number.integer value).reread = .integer value := by
  rw [reread, toLiteral, ofLiteral?_ofInteger hregular, Option.getD_some]

end Number

section Greatest

def Double.greatest : Double := ⟨false, Rank.infinite - 1, by decide⟩

theorem Double.decimal_greatest : greatest.decimal = ⟨17976931348623157, 292⟩ := by
  have hmagnitude : greatest.magnitude? = some ⟨fullSignificand, 971, false⟩ := by decide +kernel
  rw [decimal, hmagnitude]
  exact shortest_greatest

/-- Though its digits and its power of ten are both rounded, it is read back as itself. -/
theorem Number.reread_greatest :
    (Number.double Double.greatest).reread = .double Double.greatest := by
  have hliteral : (Number.double Double.greatest).toLiteral = ⟨false, ['1'],
      some ['7', '9', '7', '6', '9', '3', '1', '3', '4', '8', '6', '2', '3', '1', '5', '7'],
      some ⟨false, ['3', '0', '8']⟩⟩ := by
    rw [toLiteral, Double.decimal_greatest]
    decide +kernel
  have hscale : Literal.scale? (Rank.ofNat 17976931348623157) 292
      = some (Rank.infinite - 1) := by
    rw [Literal.scale?, if_pos (by decide), if_pos (by decide)]
    decide +kernel
  rw [reread, ofLiteral?, hliteral]
  show ((Literal.toDouble? _).map Number.double).getD _ = _
  rw [Literal.toDouble?]
  show (((Literal.scale? (Rank.ofNat 17976931348623157) 292).bind _).map Number.double).getD _ = _
  rw [hscale]
  rfl

end Greatest

end ShapeCatalog.Json
