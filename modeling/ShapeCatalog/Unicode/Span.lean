/-!
Spans of code points.  A character property is a list of spans; a span with step two holds every
second code point, which is how the letter cases of many scripts alternate.
-/

namespace ShapeCatalog.Unicode

/-- The code points `first`, `first + step`, and so on up to `last`. -/
structure Span where
  first : Nat
  last : Nat
  step : Nat
deriving Repr, DecidableEq

def Span.contains (span : Span) (code : Nat) : Bool :=
  span.first ≤ code && code ≤ span.last && (code - span.first) % span.step == 0

/-- Whether a character lies in one of the spans. -/
def Span.covers (spans : List Span) (c : Char) : Bool :=
  spans.any (·.contains c.toNat)

end ShapeCatalog.Unicode
