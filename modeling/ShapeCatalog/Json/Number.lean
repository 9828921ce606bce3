import ShapeCatalog.Decimal.Rounding
import ShapeCatalog.Decimal.Shortest

/-!
Numbers of JSON texts.  A literal without fraction and exponent that fits 64 bits, signed or
unsigned, is an integer; every other literal is a double.  A number is written by way of its
literal.
-/

namespace ShapeCatalog.Json

/-- A finite double-precision number: its sign, which zero has too, and the rank of its absolute
value. -/
structure Double where
  negative : Bool
  rank : Nat
  finite : rank < Rank.infinite
deriving DecidableEq

namespace Double

/-- The absolute value; nothing for the two zeros. -/
def magnitude? (x : Double) : Option Binary :=
  let binade := x.rank / Rank.binadeSize
  let fraction := x.rank % Rank.binadeSize
  if binade = 0 then
    if fraction = 0 then none else some ⟨fraction, -1074, false⟩
  else some ⟨Rank.binadeSize + fraction, binade - 1075, fraction = 0 && 1 < binade⟩

/-- The decimal of fewest digits that identifies the absolute value. -/
def decimal (x : Double) : Decimal :=
  match x.magnitude? with
  | none => ⟨0, 0⟩
  | some magnitude => magnitude.shortest

end Double

structure Exponent where
  negative : Bool
  digits : List Char
deriving Repr, DecidableEq

/-- A number as spelled: its digits before the point, after the point, and its exponent. -/
structure Literal where
  negative : Bool
  whole : List Char
  fraction : Option (List Char)
  exponent : Option Exponent
deriving Repr, DecidableEq

inductive Number where
  | integer (value : Int)
  | double (value : Double)
deriving DecidableEq

namespace Literal

def ofInteger (value : Int) : Literal :=
  ⟨value < 0, Nat.toDigits 10 value.natAbs, none, none⟩

/-- The literal of a decimal.  Leading digits at `10 ^ (-5)` to `10 ^ 15` are written positionally
with at least one digit after the point, all others with an exponent. -/
def ofDecimal (negative : Bool) (d : Decimal) : Literal :=
  let digits := Nat.toDigits 10 d.digits
  let leading := d.exponent + digits.length - 1
  if -5 ≤ leading ∧ leading ≤ 15 then
    if 0 ≤ d.exponent then
      ⟨negative, digits ++ List.replicate d.exponent.toNat '0', some ['0'], none⟩
    else if 0 ≤ leading then
      ⟨negative, digits.take (leading + 1).toNat, some (digits.drop (leading + 1).toNat), none⟩
    else ⟨negative, ['0'], some (List.replicate (-leading - 1).toNat '0' ++ digits), none⟩
  else
    let fraction := if digits.length ≤ 1 then none else some (digits.drop 1)
    ⟨negative, digits.take 1, fraction, some ⟨leading < 0, Nat.toDigits 10 leading.natAbs⟩⟩

def renderFraction : Option (List Char) → List Char
  | none => []
  | some digits => '.' :: digits

/-- Write an exponent, always with its sign. -/
def renderExponent : Option Exponent → List Char
  | none => []
  | some e => 'e' :: (if e.negative then '-' else '+') :: e.digits

def render (literal : Literal) : List Char :=
  (if literal.negative then ['-'] else []) ++ (literal.whole
    ++ (renderFraction literal.fraction ++ renderExponent literal.exponent))

/-- The number that a run of digits spells. -/
def natural (digits : List Char) : Nat :=
  Nat.ofDigitChars 10 digits 0

/-- The least natural number that does not fit 64 bits. -/
def unsignedBound : Nat := 0x10000000000000000

/-- The greatest absolute value of an integer that fits 64 bits with its sign. -/
def signedBound : Nat := 0x8000000000000000

/-- Extend a significand by whole digits while it fits 64 bits.  The second part counts the digits
left off. -/
def extendWhole (significand : Nat) : List Char → Nat × Nat
  | [] => (significand, 0)
  | digit :: rest =>
      let longer := 10 * significand + (digit.toNat - '0'.toNat)
      if longer < unsignedBound then extendWhole longer rest else (significand, rest.length + 1)

/-- Extend a significand by fraction digits while it fits 64 bits.  The second part counts the
digits taken. -/
def extendFraction (significand : Nat) : List Char → Nat × Nat
  | [] => (significand, 0)
  | digit :: rest =>
      let longer := 10 * significand + (digit.toNat - '0'.toNat)
      if longer < unsignedBound then
        let (last, count) := extendFraction longer rest
        (last, count + 1)
      else (significand, 0)

/-- The power of ten that a literal spells after its digits. -/
def power (literal : Literal) : Int :=
  match literal.exponent with
  | none => 0
  | some e => if e.negative then -(natural e.digits) else natural e.digits

/-- The leading digits of a literal that fit 64 bits, and the power of ten that scales them. -/
def scaled (literal : Literal) : Nat × Int :=
  let (head, dropped) := extendWhole 0 literal.whole
  let (significand, taken) := extendFraction head (literal.fraction.getD [])
  (significand, dropped - taken + literal.power)

/-- The power of ten as a double, for powers up to 308. -/
def powerOfTen (power : Nat) : Nat :=
  Rank.ofNat (Nat.pow 10 power)

/-- Scale by a power of ten, in steps of at most 308 where the power is below the range of doubles.
Nothing if the power is above that range and there is something to scale. -/
def scale? (rank : Nat) (power : Int) : Option Nat :=
  if power.natAbs ≤ 308 then
    some (if 0 ≤ power then Rank.mul rank (powerOfTen power.natAbs)
      else Rank.div rank (powerOfTen power.natAbs))
  else if rank = 0 then some rank
  else if 0 ≤ power then none
  else scale? (Rank.div rank (powerOfTen 308)) (power + 308)
termination_by power.natAbs
decreasing_by omega

/-- The double that a literal denotes.  Nothing if it is too large. -/
def toDouble? (literal : Literal) : Option Double :=
  (scale? (Rank.ofNat literal.scaled.1) literal.scaled.2).bind fun rank =>
    if h : rank < Rank.infinite then some ⟨literal.negative, rank, h⟩ else none

/-- The integer that a literal denotes, if it spells one that fits 64 bits.  A negative zero is no
integer. -/
def toInteger? (literal : Literal) : Option Int :=
  if literal.fraction.isSome || literal.exponent.isSome then none
  else
    let magnitude := natural literal.whole
    if literal.negative then
      if 0 < magnitude ∧ magnitude ≤ signedBound then some (-magnitude) else none
    else if magnitude < unsignedBound then some magnitude else none

end Literal

namespace Number

/-- The number that a literal denotes; nothing if it is too large for a double. -/
def ofLiteral? (literal : Literal) : Option Number :=
  match literal.toInteger? with
  | some value => some (.integer value)
  | none => literal.toDouble?.map .double

/-- The literal that a number is written as. -/
def toLiteral : Number → Literal
  | .integer value => .ofInteger value
  | .double value => .ofDecimal value.negative value.decimal

def render (number : Number) : List Char :=
  number.toLiteral.render

end Number

end ShapeCatalog.Json
