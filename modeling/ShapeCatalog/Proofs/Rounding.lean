import ShapeCatalog.Decimal.Rounding

/-!
Laws of rounding.  Rounding keeps the order of what is rounded, and keeps what is a double already.
All that is needed of the operations follows from these two: values have the order of their ranks,
and products and quotients grow with their first part.
-/

namespace ShapeCatalog.Rank

variable {a b num den rank : Nat}

section Quotient

theorem le_roundQuotient (num den : Nat) : num / den ≤ roundQuotient num den := by
  rw [roundQuotient]
  split <;> omega

theorem roundQuotient_le (num den : Nat) : roundQuotient num den ≤ num / den + 1 := by
  rw [roundQuotient]
  split <;> omega

theorem roundQuotient_mul (hden : 0 < den) : roundQuotient (num * den) den = num := by
  rw [roundQuotient]
  simp only [Nat.mul_mod_left, Nat.mul_div_cancel num hden, Nat.mul_zero, hden, true_or, if_true]

theorem roundQuotient_mono (hle : a ≤ b) : roundQuotient a den ≤ roundQuotient b den := by
  rcases Nat.lt_or_eq_of_le (Nat.div_le_div_right (c := den) hle) with hlower | hlower
  · calc roundQuotient a den ≤ a / den + 1 := roundQuotient_le a den
      _ ≤ b / den := hlower
      _ ≤ roundQuotient b den := le_roundQuotient b den
  · -- Both lie between the same two numbers, so that only the remainders differ.
    have hmod : a % den ≤ b % den := by
      have ha := Nat.div_add_mod a den
      have hb := Nat.div_add_mod b den
      rw [hlower] at ha
      omega
    simp only [roundQuotient, hlower]
    split <;> split <;> omega

end Quotient

section Binade

theorem div_two_pow_lt (n : Nat) : n / Nat.pow 2 (n.log2 - 52) < 2 * binadeSize := by
  have hpow : 2 ^ (n.log2 + 1) ≤ 2 * binadeSize * 2 ^ (n.log2 - 52) := by
    show _ ≤ 2 ^ 53 * 2 ^ (n.log2 - 52)
    rw [← Nat.pow_add]
    exact Nat.pow_le_pow_right (by decide) (by omega)
  rw [Nat.pow_eq, Nat.div_lt_iff_lt_mul (Nat.two_pow_pos _)]
  exact Nat.lt_of_lt_of_le Nat.lt_log2_self hpow

theorem le_div_two_pow {n : Nat} (hlarge : 0 < n.log2 - 52) :
    binadeSize ≤ n / Nat.pow 2 (n.log2 - 52) := by
  have hpow : binadeSize * 2 ^ (n.log2 - 52) = 2 ^ n.log2 := by
    show 2 ^ 52 * 2 ^ (n.log2 - 52) = _
    rw [← Nat.pow_add]
    congr 1
    omega
  have hpos : n ≠ 0 := by
    rintro rfl
    exact absurd hlarge (by decide)
  rw [Nat.pow_eq, Nat.le_div_iff_mul_le (Nat.two_pow_pos _), hpow]
  exact Nat.log2_self_le hpos

theorem log2_le_log2 (hle : a ≤ b) : a.log2 ≤ b.log2 := by
  rcases Nat.eq_zero_or_pos a with rfl | hpos
  · exact Nat.zero_le _
  · rw [Nat.le_log2 (by omega)]
    exact Nat.le_trans (Nat.log2_self_le (by omega)) hle

end Binade

/-- What is greater is not rounded to less. -/
theorem nearest_mono (hle : a ≤ b) : nearest a den ≤ nearest b den := by
  have hquotient : a / den ≤ b / den := Nat.div_le_div_right hle
  have hbinade : (a / den).log2 - 52 ≤ (b / den).log2 - 52 :=
    Nat.sub_le_sub_right (log2_le_log2 hquotient) 52
  simp only [nearest]
  rcases Nat.lt_or_eq_of_le hbinade with hless | hsame
  · -- A whole binade lies between the two: the first is at most its start, the second at least.
    have hupper := div_two_pow_lt (a / den)
    have hlower := le_div_two_pow (Nat.lt_of_le_of_lt (Nat.zero_le _) hless)
    rw [Nat.div_div_eq_div_mul] at hupper hlower
    have hfirst := roundQuotient_le a (den * Nat.pow 2 ((a / den).log2 - 52))
    have hsecond := le_roundQuotient b (den * Nat.pow 2 ((b / den).log2 - 52))
    have hstart := Nat.mul_le_mul_right binadeSize hless
    rw [Nat.succ_mul] at hstart
    omega
  · rw [hsame]
    exact Nat.add_le_add_left (roundQuotient_mono hle) _

theorem log2_units_sub (rank : Nat) : (units rank).log2 - 52 = rank / binadeSize - 1 := by
  have hpos : 0 < binadeSize := by decide
  rw [units, Nat.pow_eq]
  split
  · next hsmall =>
      have hlog : rank.log2 < 53 := by
        rcases Nat.eq_zero_or_pos rank with rfl | hrank
        · decide
        · rw [Nat.log2_lt (by omega)]
          exact Nat.lt_trans hsmall (by decide)
      rw [Nat.div_eq_of_lt hsmall]
      omega
  · next hlarge =>
      have hfraction := Nat.mod_lt rank hpos
      have hlog : ((binadeSize + rank % binadeSize) * 2 ^ (rank / binadeSize - 1)).log2
          = 52 + (rank / binadeSize - 1) := by
        have hsignificand : 0 < binadeSize + rank % binadeSize := Nat.add_pos_left hpos _
        have hunits := Nat.mul_pos hsignificand (Nat.two_pow_pos (rank / binadeSize - 1))
        have hlow : 2 ^ 52 = binadeSize := rfl
        have hhigh : 2 ^ (52 + 1) = 2 * binadeSize := rfl
        rw [Nat.log2_eq_iff (Nat.ne_of_gt hunits), Nat.add_right_comm, Nat.pow_add, Nat.pow_add,
          hlow, hhigh]
        exact ⟨Nat.mul_le_mul_right _ (Nat.le_add_right _ _),
          Nat.mul_lt_mul_of_pos_right (by omega) (Nat.two_pow_pos _)⟩
      rw [hlog]
      omega

/-- What is a double already is rounded to itself. -/
theorem nearest_units (rank : Nat) (hden : 0 < den) : nearest (units rank * den) den = rank := by
  have hrank := Nat.div_add_mod rank binadeSize
  simp only [nearest, Nat.mul_div_cancel _ hden, log2_units_sub]
  rw [units, Nat.pow_eq]
  split
  · next hsmall =>
      rw [Nat.div_eq_of_lt hsmall, Nat.pow_zero, Nat.mul_one, roundQuotient_mul hden]
      omega
  · next hlarge =>
      have hbinade : 1 ≤ rank / binadeSize :=
        (Nat.one_le_div_iff (by decide)).mpr (Nat.le_of_not_lt hlarge)
      have hscaled : (binadeSize + rank % binadeSize) * 2 ^ (rank / binadeSize - 1) * den
          = (binadeSize + rank % binadeSize) * (den * 2 ^ (rank / binadeSize - 1)) := by
        rw [Nat.mul_assoc, Nat.mul_comm (2 ^ _)]
      rw [hscaled, roundQuotient_mul (Nat.mul_pos hden (Nat.two_pow_pos _)), Nat.sub_mul]
      have hstart := Nat.mul_le_mul_right binadeSize hbinade
      rw [Nat.mul_comm binadeSize] at hrank
      omega

/-- Values have the order of their ranks. -/
theorem units_mono (hle : a ≤ b) : units a ≤ units b := by
  rcases Nat.le_total (units a) (units b) with h | h
  · exact h
  · have hback : nearest (units b * 1) 1 ≤ nearest (units a * 1) 1 :=
      nearest_mono (Nat.mul_le_mul_right 1 h)
    rw [nearest_units b Nat.one_pos, nearest_units a Nat.one_pos] at hback
    exact Nat.le_of_eq (congrArg units (Nat.le_antisymm hle hback))

theorem ofNat_mono (hle : a ≤ b) : ofNat a ≤ ofNat b :=
  nearest_mono (Nat.mul_le_mul_right one hle)

theorem mul_mono {a' b' : Nat} (hleft : a ≤ a') (hright : b ≤ b') : mul a b ≤ mul a' b' :=
  nearest_mono (Nat.mul_le_mul (units_mono hleft) (units_mono hright))

/-- What is divided by a number from one on does not grow. -/
theorem div_le (hone : one ≤ units b) : div a b ≤ a := by
  have hpos : 0 < units b := Nat.lt_of_lt_of_le (by decide +kernel) hone
  calc div a b ≤ nearest (units a * units b) (units b) :=
        nearest_mono (Nat.mul_le_mul_left (units a) hone)
    _ = a := nearest_units a hpos

theorem units_ofNat_one : units (ofNat 1) = one := by
  decide +kernel

theorem one_le_units_ofNat {n : Nat} (hpos : 0 < n) : one ≤ units (ofNat n) := by
  rw [← units_ofNat_one]
  exact units_mono (ofNat_mono hpos)

theorem mul_ofNat_one (rank : Nat) : mul rank (ofNat 1) = rank := by
  rw [mul, units_ofNat_one]
  exact nearest_units rank (by decide +kernel)

end ShapeCatalog.Rank
