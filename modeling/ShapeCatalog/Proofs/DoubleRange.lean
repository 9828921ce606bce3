import ShapeCatalog.Json.Number
import ShapeCatalog.Proofs.Rounding
import ShapeCatalog.Proofs.ShortestDecimal

/-!
Doubles written stay in the range of doubles.  The shortest decimal of a double is never above the
greatest double, though the interval of that one reaches further, and scaling rounds twice: digits
and powers of ten are rounded before they are multiplied.  A literal of few digits that is not above
the greatest double is still read as a finite one.
-/

namespace ShapeCatalog.Json

open Rank (binadeSize infinite)

/-- The greatest significand. -/
def Double.fullSignificand : Nat := 0x1FFFFFFFFFFFFF

def Double.greatestValue : Nat := fullSignificand * 2 ^ 971

section Written

/-- What the parts of a double can be.  The lower neighbour is nearer only at the
start of a binade. -/
theorem Double.bounds_of_magnitude? {x : Double} {significand : Nat} {exponent : Int}
    {narrowBelow : Bool} (h : x.magnitude? = some ⟨significand, exponent, narrowBelow⟩) :
    0 < significand ∧ significand ≤ fullSignificand ∧ -1074 ≤ exponent ∧ exponent ≤ 971 ∧
      (narrowBelow = true → significand < fullSignificand) := by
  have hfraction : x.rank % binadeSize < binadeSize := Nat.mod_lt _ (by decide)
  have hbinade : x.rank / binadeSize < 2047 :=
    (Nat.div_lt_iff_lt_mul (by decide)).mpr x.finite
  have hsize : 2 * binadeSize = fullSignificand + 1 ∧ 1 < binadeSize := by decide
  simp only [magnitude?] at h
  generalize x.rank % binadeSize = fraction at h hfraction
  generalize x.rank / binadeSize = binade at h hbinade
  split_ifs at h with hsmall hzero
  · cases h
    exact ⟨Nat.pos_of_ne_zero hzero, by omega, le_refl _, by decide, nofun⟩
  · cases h
    refine ⟨by omega, by omega, by omega, by omega, fun hnarrow => ?_⟩
    simp only [Bool.and_eq_true, decide_eq_true_eq] at hnarrow
    omega

/-- The interval of the greatest double reaches beyond it, and so do decimals there of as many
digits; but the nearest of them does not. -/
theorem shortest_greatest :
    Binary.shortest ⟨Double.fullSignificand, 971, false⟩ = ⟨17976931348623157, 292⟩ := by
  have hfound : Binary.searchGrids ⟨Double.fullSignificand, 971, false⟩
      (Binary.leadingPower ⟨Double.fullSignificand, 971, false⟩) 17 = ⟨17976931348623157, 292⟩ := by
    decide +kernel
  rw [Binary.shortest, hfound, Decimal.trim, if_neg (by decide)]

theorem natCast_mul_zpow_le_iff {digits power bound : Nat} :
    (digits : ℚ) * 10 ^ (power : Int) ≤ bound ↔ digits * 10 ^ power ≤ bound := by
  rw [zpow_natCast]
  exact_mod_cast Iff.rfl

/-- All other intervals end below it. -/
theorem upperEnd_le {magnitude : Binary} {top : Nat}
    (hsignificand : magnitude.significand ≤ Double.fullSignificand)
    (hexponent : magnitude.exponent ≤ top)
    (hless : magnitude.significand = Double.fullSignificand → magnitude.exponent ≠ top) :
    magnitude.upperEnd ≤ (Double.fullSignificand * 2 ^ top : Nat) := by
  have htop : ((Double.fullSignificand * 2 ^ top : Nat) : ℚ)
      = Double.fullSignificand * 2 ^ (top : Int) := by
    rw [Nat.cast_mul, Nat.cast_pow, Nat.cast_ofNat, zpow_natCast]
  have hone : (1 : ℚ) ≤ Double.fullSignificand := by norm_num [Double.fullSignificand]
  rw [htop, Binary.upperEnd]
  rcases lt_or_eq_of_le hexponent with hbelow | heq
  · have hcast : (magnitude.significand : ℚ) ≤ Double.fullSignificand := by
      exact_mod_cast hsignificand
    calc ((magnitude.significand : ℚ) + 1 / 2) * 2 ^ magnitude.exponent
        ≤ Double.fullSignificand * 2 * 2 ^ magnitude.exponent := by gcongr; linarith
      _ = Double.fullSignificand * 2 ^ (magnitude.exponent + 1) := by
          rw [zpow_add_one₀ two_ne_zero]; ring
      _ ≤ Double.fullSignificand * 2 ^ (top : Int) := by
          gcongr ?_ * ?_
          exact zpow_le_zpow_right₀ (by norm_num) (by omega)
  · have hnext : magnitude.significand + 1 ≤ Double.fullSignificand :=
      Nat.lt_of_le_of_ne hsignificand fun hfull => hless hfull heq
    have hcast : (magnitude.significand : ℚ) + 1 ≤ Double.fullSignificand := by
      exact_mod_cast hnext
    rw [heq]
    gcongr
    linarith

theorem value_shortest_greatest :
    (Binary.shortest ⟨Double.fullSignificand, 971, false⟩).value ≤ Double.greatestValue := by
  rw [shortest_greatest]
  exact natCast_mul_zpow_le_iff.mpr (by decide +kernel)

/-- No double is written above the greatest one. -/
theorem Double.value_decimal_le (x : Double) : x.decimal.value ≤ greatestValue := by
  rw [decimal]
  split
  · simp only [Decimal.value, Nat.cast_zero, zero_mul]
    exact Nat.cast_nonneg _
  · next magnitude hmagnitude =>
      obtain ⟨significand, exponent, narrowBelow⟩ := magnitude
      obtain ⟨hpos, hsignificand, hleast, hexponent, hnarrow⟩ := bounds_of_magnitude? hmagnitude
      by_cases htop : significand = fullSignificand ∧ exponent = 971
      · obtain ⟨rfl, rfl⟩ := htop
        obtain rfl : narrowBelow = false := by
          cases narrowBelow with
          | false => rfl
          | true => exact absurd (hnarrow rfl) (Nat.lt_irrefl _)
        exact value_shortest_greatest
      · refine (Binary.value_shortest_le hpos hleast).trans ?_
        exact upperEnd_le hsignificand hexponent fun hfull heq => htop ⟨hfull, heq⟩

theorem Double.digits_decimal_le (x : Double) : x.decimal.digits ≤ 10 ^ 18 := by
  rw [decimal]
  split
  · exact Nat.zero_le _
  · next magnitude hmagnitude =>
      obtain ⟨hpos, -, hleast, -⟩ := bounds_of_magnitude? hmagnitude
      exact Binary.digits_shortest_le hpos hleast

theorem Double.exponent_decimal_of_zero {x : Double} (hzero : x.decimal.digits = 0) :
    x.decimal.exponent = 0 := by
  rw [decimal] at hzero ⊢
  split at hzero
  · rfl
  · next magnitude hmagnitude =>
      obtain ⟨hpos, -, hleast, -⟩ := bounds_of_magnitude? hmagnitude
      exact absurd hzero (Binary.digits_shortest_pos hpos hleast).ne'

end Written

section Read

open Literal (powerOfTen scale? scaled toDouble?)

theorem one_le_units_powerOfTen (power : Nat) : Rank.one ≤ Rank.units (powerOfTen power) :=
  Rank.one_le_units_ofNat (Nat.pow_pos (by decide))

/-- Scaling down leaves what is finite finite. -/
theorem scale?_of_nonpos (rank : Nat) {power : Int} (hpower : power ≤ 0) :
    ∃ result ≤ rank, scale? rank power = some result := by
  fun_induction scale? rank power with
  | case1 rank power hrange =>
      refine ⟨_, ?_, rfl⟩
      split
      · next hnonneg =>
          obtain rfl : power = 0 := le_antisymm hpower hnonneg
          exact (Rank.mul_ofNat_one rank).le
      · exact Rank.div_le (one_le_units_powerOfTen _)
  | case2 power hrange => exact ⟨0, le_refl _, rfl⟩
  | case3 rank power hrange hrank hnonneg => omega
  | case4 rank power hrange hrank hnegative ih =>
      obtain ⟨result, hle, hresult⟩ := ih (by omega)
      exact ⟨result, hle.trans (Rank.div_le (one_le_units_powerOfTen _)), hresult⟩

/-- Up to this power of ten all literals of few digits are scaled to a finite double. -/
theorem mul_ofNat_lt_infinite :
    Rank.mul (Rank.ofNat (10 ^ 18)) (powerOfTen 290) < infinite := by
  decide +kernel

/-- For each power above it, so is the greatest number of digits that stays below the greatest
double, though both factors are rounded first. -/
theorem mul_greatest_div_lt_infinite : ∀ more < 18,
    Rank.mul (Rank.ofNat (Double.greatestValue / 10 ^ (291 + more))) (powerOfTen (291 + more))
      < infinite := by
  decide +kernel

theorem powerOfTen_mono {power power' : Nat} (hle : power ≤ power') :
    powerOfTen power ≤ powerOfTen power' :=
  Rank.ofNat_mono (Nat.pow_le_pow_right (by decide) hle)

theorem mul_powerOfTen_of_le {digits power : Nat} (hdigits : digits ≤ 10 ^ 18)
    (hvalue : digits * 10 ^ power ≤ Double.greatestValue) (hpower : power < 309) :
    Rank.mul (Rank.ofNat digits) (powerOfTen power) < infinite := by
  by_cases hsmall : power ≤ 290
  · exact (Rank.mul_mono (Rank.ofNat_mono hdigits) (powerOfTen_mono hsmall)).trans_lt
      mul_ofNat_lt_infinite
  · obtain ⟨more, rfl⟩ := Nat.exists_eq_add_of_le (Nat.lt_of_not_le hsmall)
    have hmost := (Nat.le_div_iff_mul_le (Nat.pow_pos (by decide))).mpr hvalue
    exact (Rank.mul_mono (Rank.ofNat_mono hmost) (le_refl _)).trans_lt
      (mul_greatest_div_lt_infinite more (by omega))

theorem eq_zero_of_mul_pow_le {digits power limit bound : Nat} (hlimit : bound < 10 ^ limit)
    (hpower : limit ≤ power) (hvalue : digits * 10 ^ power ≤ bound) : digits = 0 := by
  refine Nat.eq_zero_of_not_pos fun hpos => ?_
  have hpow : 10 ^ limit ≤ digits * 10 ^ power :=
    (Nat.pow_le_pow_right (by decide) hpower).trans (Nat.le_mul_of_pos_left _ hpos)
  omega

theorem scale?_of_le {digits power : Nat} (hdigits : digits ≤ 10 ^ 18)
    (hvalue : digits * 10 ^ power ≤ Double.greatestValue) :
    ∃ result < infinite, scale? (Rank.ofNat digits) power = some result := by
  by_cases hrange : power < 309
  · refine ⟨_, mul_powerOfTen_of_le hdigits hvalue hrange, ?_⟩
    rw [scale?, if_pos (by omega), if_pos (by omega), Int.natAbs_natCast]
  · obtain rfl : digits = 0 :=
      eq_zero_of_mul_pow_le (by decide +kernel) (Nat.le_of_not_lt hrange) hvalue
    have hzero : Rank.ofNat 0 = 0 := by decide +kernel
    refine ⟨0, by decide, ?_⟩
    rw [scale?, if_neg (by omega), if_pos hzero, hzero]

theorem ofNat_lt_infinite {digits : Nat} (hdigits : digits ≤ 10 ^ 18) :
    Rank.ofNat digits < infinite :=
  (Rank.ofNat_mono hdigits).trans_lt (by decide +kernel)

/-- A literal of few digits that is not above the greatest double is read. -/
theorem Literal.exists_toDouble? {literal : Literal} (hdigits : literal.scaled.1 ≤ 10 ^ 18)
    (hvalue : (literal.scaled.1 : ℚ) * 10 ^ literal.scaled.2 ≤ Double.greatestValue) :
    ∃ x, literal.toDouble? = some x := by
  have hscale : ∃ result < infinite,
      scale? (Rank.ofNat literal.scaled.1) literal.scaled.2 = some result := by
    rcases le_total literal.scaled.2 0 with hdown | hup
    · obtain ⟨result, hle, hresult⟩ := scale?_of_nonpos (Rank.ofNat literal.scaled.1) hdown
      exact ⟨result, hle.trans_lt (ofNat_lt_infinite hdigits), hresult⟩
    · obtain ⟨power, hpower⟩ := Int.eq_ofNat_of_zero_le hup
      rw [hpower] at hvalue ⊢
      exact scale?_of_le hdigits (natCast_mul_zpow_le_iff.mp hvalue)
  obtain ⟨result, hfinite, hresult⟩ := hscale
  refine ⟨⟨literal.negative, result, hfinite⟩, ?_⟩
  rw [toDouble?, hresult, Option.bind_some, dif_pos hfinite]

end Read

end ShapeCatalog.Json
