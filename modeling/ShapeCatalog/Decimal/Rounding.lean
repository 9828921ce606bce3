/-!
Arithmetic on the absolute values of double-precision numbers.  They are numbered in order from zero
on, and each is known by its rank, which is its bit pattern too.  Values are counted in units of
`2 ^ (-1074)`, the least positive one.  What an operation gives is the exact result, rounded.
-/

namespace ShapeCatalog.Rank

/-- The number of ranks over which the distance from one double to the next stays the same. -/
def binadeSize : Nat := 0x10000000000000

/-- The first rank that no finite double has. -/
def infinite : Nat := 2047 * binadeSize

/-- The number one, in units. -/
def one : Nat := Nat.pow 2 1074

/-- The value of a rank in units.  Two binades are counted unit by unit; from each binade to the
next the distance doubles. -/
def units (rank : Nat) : Nat :=
  if rank < binadeSize then rank
  else (binadeSize + rank % binadeSize) * Nat.pow 2 (rank / binadeSize - 1)

/-- The natural number nearest to a quotient, and of two equally near the even one. -/
def roundQuotient (num den : Nat) : Nat :=
  let lower := num / den
  let twice := 2 * (num % den)
  if twice < den ∨ twice = den ∧ lower % 2 = 0 then lower else lower + 1

/-- The rank nearest to so many units, given as a quotient. -/
def nearest (num den : Nat) : Nat :=
  let binade := (num / den).log2 - 52
  binade * binadeSize + roundQuotient num (den * Nat.pow 2 binade)

def ofNat (n : Nat) : Nat :=
  nearest (n * one) 1

def mul (a b : Nat) : Nat :=
  nearest (units a * units b) one

def div (a b : Nat) : Nat :=
  nearest (units a * one) (units b)

end ShapeCatalog.Rank
