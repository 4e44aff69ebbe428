/-!
# Spans of code points

A Unicode property is kept as the list of its maximal spans.
-/

namespace StyleScope.Text

/-- The code points from `first` to `last`, both included. -/
structure CodeSpan where
  first : Nat
  last : Nat
  deriving DecidableEq

/-- Whether the code point `n` lies in the span. -/
def CodeSpan.covers (s : CodeSpan) (n : Nat) : Bool :=
  s.first ≤ n && n ≤ s.last

end StyleScope.Text
