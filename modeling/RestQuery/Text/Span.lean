/-!
# Sets of characters as spans of code points

A character property is a list of spans; neighbouring letters often alternate between the
two cases, so a span may take every second code point only.
-/

namespace RestQuery.Text

/-- The code points `first`, `first + step`, `first + 2 * step`, … up to `last`. -/
structure Span where
  first : Nat
  last : Nat
  step : Nat
  deriving DecidableEq

def Span.contains (span : Span) (code : Nat) : Bool :=
  span.first ≤ code && code ≤ span.last && (code - span.first) % span.step == 0

def covered (spans : List Span) (c : Char) : Bool := spans.any (·.contains c.toNat)

@[simp]
theorem covered_nil (c : Char) : covered [] c = false := rfl

@[simp]
theorem covered_cons (span : Span) (spans : List Span) (c : Char) :
    covered (span :: spans) c = (span.contains c.toNat || covered spans c) := rfl

end RestQuery.Text
