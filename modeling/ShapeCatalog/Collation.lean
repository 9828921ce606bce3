import ShapeCatalog.Unicode.Alphabetic
import ShapeCatalog.Unicode.Blank
import ShapeCatalog.Unicode.LetterCase
import ShapeCatalog.Unicode.Numeric

/-!
The order of names.  Letters compare without regard to case first, blanks and punctuation come
before digits and digits before letters; then a small letter comes before a capital; names that
still tie are told apart by their code points.
-/

namespace ShapeCatalog.Collation

/-- The classes of characters, in their order. -/
inductive CharClass where
  | separator
  | numeric
  | alphabetic
  | other
deriving Repr, DecidableEq

def CharClass.rank : CharClass → Nat
  | .separator => 0
  | .numeric => 1
  | .alphabetic => 2
  | .other => 3

def charClass (c : Char) : CharClass :=
  if Unicode.isBlank c || Unicode.isAsciiPunctuation c then .separator
  else if Unicode.isNumeric c then .numeric
  else if Unicode.isAlphabetic c then .alphabetic
  else .other

/-- What decides first about a character: its class, then its lower case. -/
def primaryWeight (c : Char) : Nat × Nat :=
  ((charClass c).rank, (Unicode.lowerHead c).toNat)

/-- What decides next: whether it is a capital. -/
def caseWeight (c : Char) : Nat :=
  if Unicode.isUppercase c then 1 else 0

/-- Compare pairs by their first parts, then by their second. -/
def comparePairs (a b : Nat × Nat) : Ordering :=
  (compare a.1 b.1).then (compare a.2 b.2)

/-- Compare lists at the first place where they differ; a list comes before its extensions. -/
def compareLists {α : Type} (cmp : α → α → Ordering) : List α → List α → Ordering
  | [], [] => .eq
  | [], _ :: _ => .lt
  | _ :: _, [] => .gt
  | a :: as, b :: bs => (cmp a b).then (compareLists cmp as bs)

/-- Compare lists of characters by what a weight says of each character. -/
def compareBy {α : Type} (weight : Char → α) (cmp : α → α → Ordering) (a b : List Char) :
    Ordering :=
  compareLists cmp (a.map weight) (b.map weight)

def compareNames (a b : String) : Ordering :=
  (compareBy primaryWeight comparePairs a.toList b.toList).then
    ((compareBy caseWeight compare a.toList b.toList).then
      (compareBy Char.toNat compare a.toList b.toList))

/-- Whether a name may stand before another. -/
def le (a b : String) : Bool :=
  compareNames a b != .gt

/-- Sort by name.  Items of one name keep their order. -/
def sortByName {α : Type} (name : α → String) (items : List α) : List α :=
  items.mergeSort fun a b => le (name a) (name b)

end ShapeCatalog.Collation
