/-!
The shortest decimal that identifies a binary number.  Every decimal inside the interval of reals
that round to the number identifies it; among those with the fewest digits the nearest is taken,
and of two equally near the even one.  All comparisons are between natural numbers.
-/

namespace ShapeCatalog

/-- The number `digits * 10 ^ exponent`. -/
structure Decimal where
  digits : Nat
  exponent : Int
deriving Repr, DecidableEq

/-- The number `significand * 2 ^ exponent`.  Its upper neighbour is one unit of the significand
away, and so is its lower neighbour unless `narrowBelow` holds: then it is half a unit away. -/
structure Binary where
  significand : Nat
  exponent : Int
  narrowBelow : Bool
deriving Repr, DecidableEq

/-- Drop the trailing zeros of the digits. -/
def Decimal.trim (d : Decimal) : Decimal :=
  if d.digits ≠ 0 ∧ d.digits % 10 = 0 then
    Decimal.trim ⟨d.digits / 10, d.exponent + 1⟩
  else d
termination_by d.digits
decreasing_by omega

namespace Binary

/-- Bring `quarters * 2 ^ (exponent - 2)` to the scale on which it is compared with multiples of
`10 ^ power`. -/
def scaleBinary (x : Binary) (power : Int) (quarters : Nat) : Nat :=
  quarters * Nat.pow 2 (x.exponent - 2).toNat * Nat.pow 10 (-power).toNat

/-- Bring `digits * 10 ^ power` to the scale on which it is compared with the binary number. -/
def scaleDecimal (x : Binary) (power : Int) (digits : Nat) : Nat :=
  digits * Nat.pow 10 power.toNat * Nat.pow 2 (2 - x.exponent).toNat

/-- Whether `digits * 10 ^ power` rounds to the number.  The ends of the interval do so exactly if
the significand is even. -/
def identifiedBy (x : Binary) (power : Int) (digits : Nat) : Bool :=
  let below := x.scaleBinary power (4 * x.significand - if x.narrowBelow then 1 else 2)
  let above := x.scaleBinary power (4 * x.significand + 2)
  let candidate := x.scaleDecimal power digits
  if x.significand % 2 = 0 then below ≤ candidate && candidate ≤ above
  else below < candidate && candidate < above

/-- Of the two neighbours of the number on the grid of multiples of `10 ^ power`, the one that
identifies it; the nearer if both do, and the even one if they are equally near. -/
def onGrid? (x : Binary) (power : Int) : Option Decimal :=
  let value := x.scaleBinary power (4 * x.significand)
  let lower := value / x.scaleDecimal power 1
  let upper := lower + 1
  let middle := x.scaleDecimal power (2 * lower + 1)
  match x.identifiedBy power lower, x.identifiedBy power upper with
  | true, true =>
      if 2 * value < middle then some ⟨lower, power⟩
      else if middle < 2 * value then some ⟨upper, power⟩
      else some ⟨if lower % 2 = 0 then lower else upper, power⟩
  | true, false => some ⟨lower, power⟩
  | false, true => some ⟨upper, power⟩
  | false, false => none

/-- The number with its point shifted by so many decimal places, rounded down. -/
def shifted (x : Binary) (places : Nat) : Nat :=
  x.significand * Nat.pow 2 x.exponent.toNat * Nat.pow 10 places
    / Nat.pow 2 (-x.exponent).toNat

/-- The power of ten of the leading digit.  The shift keeps numbers down to `10 ^ (-400)` whole. -/
def leadingPower (x : Binary) : Int :=
  (Nat.toDigits 10 (x.shifted 400)).length - 1 - 400

/-- The first hit on the grids that hold one digit more each time. -/
def searchGrids (x : Binary) (power : Int) : Nat → Decimal
  | 0 => ⟨x.scaleBinary power (4 * x.significand) / x.scaleDecimal power 1, power⟩
  | more + 1 =>
      match x.onGrid? power with
      | some found => found
      | none => searchGrids x (power - 1) more

/-- The shortest decimal that identifies a positive number.  Seventeen digits are always enough. -/
def shortest (x : Binary) : Decimal :=
  (x.searchGrids x.leadingPower 17).trim

end Binary

end ShapeCatalog
