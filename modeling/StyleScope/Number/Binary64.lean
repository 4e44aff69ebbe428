/-!
# Binary64 numbers

A double-precision number is its 64 bits: a sign, 11 bits of exponent and 52 bits of fraction. Two
numbers are equal when their bits are, so a NaN equals itself and the two zeros differ.
-/

namespace StyleScope

structure Binary64 where
  bits : UInt64
  deriving DecidableEq

namespace Binary64

def fraction (x : Binary64) : Nat :=
  x.bits.toNat % Nat.pow 2 52

/-- The exponent field, biased by 1023. -/
def exponent (x : Binary64) : Nat :=
  x.bits.toNat / Nat.pow 2 52 % Nat.pow 2 11

def isNegative (x : Binary64) : Bool :=
  Nat.pow 2 63 ≤ x.bits.toNat

def isNaN (x : Binary64) : Bool :=
  x.exponent == 2047 && x.fraction != 0

def isInfinite (x : Binary64) : Bool :=
  x.exponent == 2047 && x.fraction == 0

/-- The fraction with its leading bit, which subnormal numbers lack. -/
def significand (x : Binary64) : Nat :=
  if x.exponent = 0 then x.fraction else Nat.pow 2 52 + x.fraction

/-- A finite number is `significand * 2 ^ scale`, up to its sign. -/
def scale (x : Binary64) : Int :=
  (max x.exponent 1 : Nat) - 1075

/-- The number with the given fields. -/
def ofFields (negative : Bool) (exponent fraction : Nat) : Binary64 :=
  ⟨UInt64.ofNat ((if negative then Nat.pow 2 63 else 0) + exponent * Nat.pow 2 52 + fraction)⟩

/-- The number that denotes an integer of 32 bits. Its magnitude has at most 32 bits, so no bit is
lost when the leading one is moved to the place of the implicit bit. -/
def ofInt32 (n : Int32) : Binary64 :=
  let magnitude := n.toInt.natAbs
  if magnitude = 0 then ofFields false 0 0
  else
    let top := magnitude.log2
    ofFields (n.toInt < 0) (1023 + top) (magnitude * Nat.pow 2 (52 - top) - Nat.pow 2 52)

end Binary64

end StyleScope
