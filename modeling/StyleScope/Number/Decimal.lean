/-!
# Decimals

A decimal is a coefficient and a power of ten. Its text is positional: all digits are written out,
and a point stands only before places that are there.
-/

namespace StyleScope

/-- The number `coefficient * 10 ^ exponent`. -/
structure Decimal where
  coefficient : Nat
  exponent : Int
  deriving DecidableEq

namespace Decimal

/-- The digits of a numeral with `places` of them after the point, at least one before it. -/
def withPoint (places : Nat) (digits : List Char) : List Char :=
  let padded := List.replicate (places + 1 - digits.length) '0' ++ digits
  let whole := padded.length - places
  padded.take whole ++ '.' :: padded.drop whole

/-- Positional text, never with an exponent. -/
def text (d : Decimal) : String :=
  let digits := Nat.toDigits 10 d.coefficient
  String.ofList <|
    if 0 ≤ d.exponent then digits ++ List.replicate d.exponent.toNat '0'
    else withPoint (-d.exponent).toNat digits

end Decimal

end StyleScope
