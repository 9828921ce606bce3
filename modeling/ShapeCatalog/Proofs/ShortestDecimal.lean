import ShapeCatalog.Decimal.Shortest
import Mathlib.Algebra.Order.Field.Power
import Mathlib.Data.Rat.Cast.Order
import Mathlib.Tactic.FieldSimp
import Mathlib.Tactic.Linarith
import Mathlib.Tactic.Positivity
import Mathlib.Tactic.Ring

/-!
How far the shortest decimal can be from its number.  All comparisons of the search are read as
comparisons of rational values, so that no power is scaled by hand again.  What the search finds is
positive, has few digits, and lies below the upper end of the interval of the number.
-/

namespace ShapeCatalog

namespace Decimal

def value (d : Decimal) : ℚ :=
  d.digits * 10 ^ d.exponent

/-- Trailing zeros can be dropped without changing the value. -/
theorem value_trim (d : Decimal) : d.trim.value = d.value := by
  fun_induction trim d with
  | case1 d h ih =>
      have hdigits : (d.digits : ℚ) = (d.digits / 10 : Nat) * 10 := by
        exact_mod_cast (Nat.div_mul_cancel (Nat.dvd_of_mod_eq_zero h.2)).symm
      rw [ih, value, value, hdigits, zpow_add_one₀ (by norm_num)]
      ring
  | case2 d h => rfl

theorem digits_trim_le (d : Decimal) : d.trim.digits ≤ d.digits := by
  fun_induction trim d with
  | case1 d h ih => exact ih.trans (Nat.div_le_self _ _)
  | case2 d h => exact Nat.le_refl _

theorem digits_trim_pos {d : Decimal} (hpos : 0 < d.digits) : 0 < d.trim.digits := by
  fun_induction trim d with
  | case1 d h ih => exact ih (Nat.div_pos (by omega) (by decide))
  | case2 d h => exact hpos

end Decimal

/-- A power to an integer, split into what is multiplied and what is divided by. -/
theorem pow_toNat (base : ℚ) (hbase : base ≠ 0) (power : Int) :
    base ^ power.toNat = base ^ power * base ^ (-power).toNat := by
  rw [← zpow_natCast, ← zpow_natCast, ← zpow_add₀ hbase]
  congr 1
  omega

namespace Binary

def value (x : Binary) : ℚ :=
  x.significand * 2 ^ x.exponent

/-- The upper end of the interval of reals that round to the number. -/
def upperEnd (x : Binary) : ℚ :=
  (x.significand + 1 / 2) * 2 ^ x.exponent

/-- The factor by which values are scaled to be compared. -/
def scale (x : Binary) (power : Int) : ℚ :=
  2 ^ (-(x.exponent - 2)).toNat * 10 ^ (-power).toNat

variable {x : Binary} {power : Int} {digits : Nat} {d : Decimal}

theorem scale_pos (x : Binary) (power : Int) : 0 < x.scale power := by
  unfold scale
  positivity

theorem cast_scaleBinary (x : Binary) (power : Int) (quarters : Nat) :
    (x.scaleBinary power quarters : ℚ) = quarters / 4 * 2 ^ x.exponent * x.scale power := by
  rw [scaleBinary, scale]
  simp only [Nat.pow_eq, Nat.cast_mul, Nat.cast_pow, Nat.cast_ofNat]
  rw [pow_toNat 2 two_ne_zero, zpow_sub₀ two_ne_zero]
  ring

theorem cast_scaleDecimal (x : Binary) (power : Int) (digits : Nat) :
    (x.scaleDecimal power digits : ℚ) = digits * 10 ^ power * x.scale power := by
  rw [scaleDecimal, scale]
  simp only [Nat.pow_eq, Nat.cast_mul, Nat.cast_pow, Nat.cast_ofNat, neg_sub]
  rw [pow_toNat 10 (by norm_num)]
  ring

/-- The number of whole steps of a grid below the number. -/
def stepsBelow (x : Binary) (power : Int) : Nat :=
  x.scaleBinary power (4 * x.significand) / x.scaleDecimal power 1

theorem stepsBelow_mul_le (x : Binary) (power : Int) :
    (x.stepsBelow power : ℚ) * 10 ^ power ≤ x.value := by
  have hsteps : (x.stepsBelow power * x.scaleDecimal power 1 : ℚ)
      ≤ x.scaleBinary power (4 * x.significand) := by
    exact_mod_cast Nat.div_mul_le_self _ _
  rw [cast_scaleBinary, cast_scaleDecimal, ← mul_assoc] at hsteps
  have hvalues := le_of_mul_le_mul_right hsteps (scale_pos x power)
  rw [value]
  push_cast at hvalues
  linarith

theorem stepsBelow_pos (hstep : 10 ^ power ≤ x.value) : 0 < x.stepsBelow power := by
  have hscaled : (x.scaleDecimal power 1 : ℚ) ≤ x.scaleBinary power (4 * x.significand) := by
    rw [cast_scaleBinary, cast_scaleDecimal]
    refine mul_le_mul_of_nonneg_right ?_ (scale_pos x power).le
    rw [value] at hstep
    push_cast
    linarith
  have hpos : (0 : ℚ) < x.scaleDecimal power 1 := by
    rw [cast_scaleDecimal]
    exact mul_pos (by positivity) (scale_pos x power)
  exact Nat.div_pos (by exact_mod_cast hscaled) (by exact_mod_cast hpos)

/-- What is known of a decimal that the search may find for a number. -/
structure Approximates (x : Binary) (d : Decimal) : Prop where
  digits_pos : 0 < d.digits
  value_le : d.value ≤ x.upperEnd
  previous_le : ((d.digits : ℚ) - 1) * 10 ^ d.exponent ≤ x.value

theorem le_upperEnd_of_identifiedBy (h : x.identifiedBy power digits = true) :
    (digits : ℚ) * 10 ^ power ≤ x.upperEnd := by
  have hscaled : x.scaleDecimal power digits ≤ x.scaleBinary power (4 * x.significand + 2) := by
    rw [identifiedBy] at h
    split at h <;> simp only [Bool.and_eq_true, decide_eq_true_eq] at h
    · exact h.2
    · exact h.2.le
  have hcast : (x.scaleDecimal power digits : ℚ)
      ≤ x.scaleBinary power (4 * x.significand + 2) := by exact_mod_cast hscaled
  rw [cast_scaleBinary, cast_scaleDecimal] at hcast
  have hvalues := le_of_mul_le_mul_right hcast (scale_pos x power)
  rw [upperEnd]
  push_cast at hvalues
  linarith

/-- Zero identifies no positive number. -/
theorem pos_of_identifiedBy (hpos : 0 < x.significand) (h : x.identifiedBy power digits = true) :
    0 < digits := by
  have hbelow : 0 < x.scaleBinary power
      (4 * x.significand - if x.narrowBelow then 1 else 2) := by
    refine Nat.mul_pos (Nat.mul_pos ?_ (Nat.pow_pos (by decide))) (Nat.pow_pos (by decide))
    split <;> omega
  refine Nat.pos_of_ne_zero fun hzero => ?_
  rw [hzero, identifiedBy, scaleDecimal, Nat.zero_mul, Nat.zero_mul] at h
  split at h <;> simp only [Bool.and_eq_true, decide_eq_true_eq] at h <;> omega

/-- What is found on a grid is one of the two neighbours there, and identifies the number. -/
theorem of_onGrid? (h : x.onGrid? power = some d) : d.exponent = power ∧
    x.identifiedBy power d.digits = true ∧ d.digits ≤ x.stepsBelow power + 1 := by
  simp only [onGrid?] at h
  rw [← stepsBelow] at h
  split at h
  · next hlower hupper =>
      have hd : some d = some ⟨x.stepsBelow power, power⟩ ∨
          some d = some ⟨x.stepsBelow power + 1, power⟩ := by
        split_ifs at h
        · exact .inl h.symm
        · exact .inr h.symm
        · exact .inl h.symm
        · exact .inr h.symm
      rcases hd with hd | hd <;> obtain rfl := Option.some.inj hd
      · exact ⟨rfl, hlower, Nat.le_succ _⟩
      · exact ⟨rfl, hupper, Nat.le_refl _⟩
  · next hlower _ =>
      obtain rfl := Option.some.inj h
      exact ⟨rfl, hlower, Nat.le_succ _⟩
  · next _ hupper =>
      obtain rfl := Option.some.inj h
      exact ⟨rfl, hupper, Nat.le_refl _⟩
  · cases h

theorem approximates_of_onGrid? (hpos : 0 < x.significand) (h : x.onGrid? power = some d) :
    x.Approximates d := by
  obtain ⟨rfl, hidentified, hdigits⟩ := of_onGrid? h
  refine ⟨pos_of_identifiedBy hpos hidentified, le_upperEnd_of_identifiedBy hidentified, ?_⟩
  have hprevious : (d.digits : ℚ) - 1 ≤ x.stepsBelow d.exponent := by
    have hcast : (d.digits : ℚ) ≤ x.stepsBelow d.exponent + 1 := by exact_mod_cast hdigits
    linarith
  calc ((d.digits : ℚ) - 1) * 10 ^ d.exponent
      ≤ x.stepsBelow d.exponent * 10 ^ d.exponent := by gcongr
    _ ≤ x.value := stepsBelow_mul_le x d.exponent

theorem value_le_upperEnd (x : Binary) : x.value ≤ x.upperEnd := by
  rw [value, upperEnd]
  gcongr
  linarith

/-- The search ends on one of its grids, if the last of them is fine enough for the number. -/
theorem approximates_searchGrids (hpos : 0 < x.significand) {more : Nat}
    (hlast : (10 : ℚ) ^ (power - more) ≤ x.value) :
    x.Approximates (x.searchGrids power more) ∧
      power - more ≤ (x.searchGrids power more).exponent := by
  induction more generalizing power with
  | zero =>
      rw [Nat.cast_zero, sub_zero] at hlast ⊢
      have hbelow := stepsBelow_mul_le x power
      refine ⟨⟨stepsBelow_pos hlast, hbelow.trans (value_le_upperEnd x), ?_⟩, le_refl _⟩
      refine le_trans ?_ hbelow
      show ((x.stepsBelow power : ℚ) - 1) * 10 ^ power ≤ _
      gcongr
      linarith
  | succ more ih =>
      have hshift : power - ((more + 1 : Nat) : Int) = power - 1 - more := by
        push_cast
        ring
      rw [hshift] at hlast ⊢
      rw [searchGrids]
      split
      · next found hfound =>
          refine ⟨approximates_of_onGrid? hpos hfound, ?_⟩
          rw [(of_onGrid? hfound).1]
          omega
      · exact ih hlast

section LeadingPower

theorem cast_scaled (x : Binary) (places : Nat) :
    ((x.significand * Nat.pow 2 x.exponent.toNat * Nat.pow 10 places : Nat) : ℚ)
      = x.value * 10 ^ places * (Nat.pow 2 (-x.exponent).toNat : Nat) := by
  rw [value]
  simp only [Nat.pow_eq, Nat.cast_mul, Nat.cast_pow, Nat.cast_ofNat]
  rw [pow_toNat 2 two_ne_zero]
  ring

theorem shifted_le (x : Binary) (places : Nat) :
    (x.shifted places : ℚ) ≤ x.value * 10 ^ places := by
  have hpos : (0 : ℚ) < (Nat.pow 2 (-x.exponent).toNat : Nat) := by
    exact_mod_cast Nat.pow_pos (by decide)
  refine le_of_mul_le_mul_right ?_ hpos
  rw [← cast_scaled, ← Nat.cast_mul, Nat.cast_le]
  exact Nat.div_mul_le_self _ _

theorem lt_shifted_add_one (x : Binary) (places : Nat) :
    x.value * 10 ^ places < x.shifted places + 1 := by
  have hpos : 0 < Nat.pow 2 (-x.exponent).toNat := Nat.pow_pos (by decide)
  have hcast : (0 : ℚ) < (Nat.pow 2 (-x.exponent).toNat : Nat) := by exact_mod_cast hpos
  refine lt_of_mul_lt_mul_right ?_ hcast.le
  rw [← cast_scaled, ← Nat.cast_add_one, ← Nat.cast_mul, Nat.cast_lt]
  exact Nat.lt_mul_of_div_lt (Nat.lt_succ_self (x.shifted places)) hpos

/-- A decimal place is worth more than three binary ones. -/
theorem shifted_pos {places : Nat} (hpos : 0 < x.significand)
    (hplaces : (-x.exponent).toNat ≤ 3 * places) : 0 < x.shifted places := by
  have hpow : Nat.pow 2 (-x.exponent).toNat ≤ Nat.pow 10 places :=
    calc 2 ^ (-x.exponent).toNat ≤ 2 ^ (3 * places) := Nat.pow_le_pow_right (by decide) hplaces
      _ = 8 ^ places := Nat.pow_mul 2 3 places
      _ ≤ 10 ^ places := Nat.pow_le_pow_left (by decide) places
  refine Nat.div_pos (hpow.trans ?_) (Nat.pow_pos (by decide))
  exact Nat.le_mul_of_pos_left _ (Nat.mul_pos hpos (Nat.pow_pos (by decide)))

theorem value_lt_pow_length (x : Binary) (places : Nat) :
    x.value < 10 ^ (((Nat.toDigits 10 (x.shifted places)).length : Int) - places) := by
  have hlength : x.shifted places < 10 ^ (Nat.toDigits 10 (x.shifted places)).length :=
    (Nat.length_toDigits_le_iff (by decide) Nat.length_toDigits_pos).mp (Nat.le_refl _)
  have hcast : (x.shifted places : ℚ) + 1 ≤ 10 ^ (Nat.toDigits 10 (x.shifted places)).length := by
    exact_mod_cast hlength
  rw [zpow_sub₀ (by norm_num), zpow_natCast, zpow_natCast, lt_div_iff₀ (by positivity)]
  exact (lt_shifted_add_one x places).trans_le hcast

theorem pow_length_le_value {places : Nat} (hpos : 0 < x.shifted places) :
    10 ^ (((Nat.toDigits 10 (x.shifted places)).length : Int) - 1 - places) ≤ x.value := by
  obtain ⟨more, hmore⟩ : ∃ more, (Nat.toDigits 10 (x.shifted places)).length = more + 1 :=
    Nat.exists_eq_add_one.mpr Nat.length_toDigits_pos
  have hlength : 10 ^ more ≤ x.shifted places := by
    rcases Nat.eq_zero_or_pos more with rfl | hpositive
    · exact hpos
    · refine Nat.le_of_not_lt fun hless => ?_
      have hshort := (Nat.length_toDigits_le_iff (by decide) hpositive).mpr hless
      omega
  have hcast : (10 : ℚ) ^ more ≤ x.shifted places := by exact_mod_cast hlength
  rw [hmore, Nat.cast_add_one, add_sub_cancel_right, zpow_sub₀ (by norm_num), zpow_natCast,
    zpow_natCast, div_le_iff₀ (by positivity)]
  exact hcast.trans (shifted_le x places)

theorem value_lt_leadingPower (x : Binary) : x.value < 10 ^ (x.leadingPower + 1) := by
  have hless := value_lt_pow_length x 400
  rw [leadingPower]
  convert hless using 2
  push_cast
  ring

theorem leadingPower_le_value (hpos : 0 < x.significand) (hleast : -1074 ≤ x.exponent) :
    10 ^ x.leadingPower ≤ x.value :=
  pow_length_le_value (shifted_pos hpos (by omega))

end LeadingPower

theorem approximates_searchGrids_leadingPower (hpos : 0 < x.significand)
    (hleast : -1074 ≤ x.exponent) : x.Approximates (x.searchGrids x.leadingPower 17) ∧
      x.leadingPower - 17 ≤ (x.searchGrids x.leadingPower 17).exponent := by
  refine approximates_searchGrids hpos (le_trans ?_ (leadingPower_le_value hpos hleast))
  exact zpow_le_zpow_right₀ (by norm_num) (by omega)

/-- A grid that is not too fine for the number has not too many steps below it. -/
theorem Approximates.digits_le (h : x.Approximates d) (hfine : x.leadingPower - 17 ≤ d.exponent) :
    d.digits ≤ 10 ^ 18 := by
  have hpower : x.leadingPower + 1 ≤ 18 + d.exponent := by omega
  have hless : ((d.digits : ℚ) - 1) * 10 ^ d.exponent < 10 ^ 18 * 10 ^ d.exponent :=
    calc ((d.digits : ℚ) - 1) * 10 ^ d.exponent ≤ x.value := h.previous_le
      _ < 10 ^ (x.leadingPower + 1) := value_lt_leadingPower x
      _ ≤ 10 ^ (18 + d.exponent) := zpow_le_zpow_right₀ (by norm_num) hpower
      _ = 10 ^ 18 * 10 ^ d.exponent := by rw [zpow_add₀ (by norm_num)]; rfl
  have hdigits : (d.digits : ℚ) - 1 < 10 ^ 18 := lt_of_mul_lt_mul_right hless (by positivity)
  have hcast : (d.digits : ℚ) < ((10 ^ 18 + 1 : Nat) : ℚ) := by
    push_cast
    linarith
  exact Nat.lt_succ_iff.mp (by exact_mod_cast hcast)

theorem digits_shortest_pos (hpos : 0 < x.significand) (hleast : -1074 ≤ x.exponent) :
    0 < x.shortest.digits :=
  Decimal.digits_trim_pos (approximates_searchGrids_leadingPower hpos hleast).1.digits_pos

theorem digits_shortest_le (hpos : 0 < x.significand) (hleast : -1074 ≤ x.exponent) :
    x.shortest.digits ≤ 10 ^ 18 := by
  obtain ⟨happroximates, hfine⟩ := approximates_searchGrids_leadingPower hpos hleast
  exact (Decimal.digits_trim_le _).trans (happroximates.digits_le hfine)

/-- The shortest decimal lies in the interval of its number, as far as its upper end goes. -/
theorem value_shortest_le (hpos : 0 < x.significand) (hleast : -1074 ≤ x.exponent) :
    x.shortest.value ≤ x.upperEnd := by
  rw [shortest, Decimal.value_trim]
  exact (approximates_searchGrids_leadingPower hpos hleast).1.value_le

end Binary

end ShapeCatalog
