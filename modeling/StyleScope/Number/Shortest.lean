import StyleScope.Number.Binary64
import StyleScope.Number.Decimal

/-!
# Shortest decimals

The shortest decimal of a number is the one with the fewest digits among those that read back as it.
All decimals that read back form an interval around the number, halfway to its two neighbours. The
grids of powers of ten are tried from the coarsest to the finest, and on each grid only the two
points next to the number matter: if any point of the grid lies in the interval, one of them does.
-/

namespace StyleScope

/-- A number with the interval of reals that round to it, everything in units of `10 ^ exponent`. -/
structure RoundingInterval where
  value : Nat
  low : Nat
  high : Nat
  /-- Whether the ends round to the number too. -/
  closed : Bool
  exponent : Int

namespace RoundingInterval

/-- Whether the point `n` rounds to the number. -/
def holds (i : RoundingInterval) (n : Nat) : Bool :=
  if i.closed then i.low ≤ n && n ≤ i.high else i.low < n && n < i.high

/-- The index of the point on the grid of multiples of `step` that lies in the interval and next to
the number; the nearer one if there are two, and the upper one on a tie. -/
def onGrid? (i : RoundingInterval) (step : Nat) : Option Nat :=
  let below := i.value / step
  let above := below + 1
  match i.holds (below * step), i.holds (above * step) with
  | true, true => some (if i.value - below * step < above * step - i.value then below else above)
  | true, false => some below
  | false, true => some above
  | false, false => none

/-- The first hit on the grids of `10 ^ k` and finer. On the finest grid the number is itself a point. -/
def shortestFrom (i : RoundingInterval) : Nat → Decimal
  | 0 => ⟨i.value, i.exponent⟩
  | k + 1 =>
    match i.onGrid? (Nat.pow 10 (k + 1)) with
    | some n => ⟨n, i.exponent + (k + 1)⟩
    | none => i.shortestFrom k

/-- The decimal of fewest digits in the interval. -/
def shortest (i : RoundingInterval) : Decimal :=
  i.shortestFrom (Nat.toDigits 10 i.value).length

end RoundingInterval

namespace Binary64

/-- The reals that round to the magnitude of `x`, counted in quarters of its last place. The gap below
a power of two is half the gap above it, except at the lower end of the normal range; the ends round
to the even significand. -/
def interval (x : Binary64) : RoundingInterval :=
  let below := if x.fraction = 0 ∧ 1 < x.exponent then 1 else 2
  let quarters := 4 * x.significand
  -- a quarter of the last place is `unit * 10 ^ exponent`
  let quarter := x.scale - 2
  let unit := if quarter < 0 then Nat.pow 5 (-quarter).toNat else Nat.pow 2 quarter.toNat
  { value := quarters * unit
    low := (quarters - below) * unit
    high := (quarters + 2) * unit
    closed := x.significand % 2 == 0
    exponent := min quarter 0 }

/-- The shortest decimal that reads back as the magnitude of a finite number. -/
def decimal (x : Binary64) : Decimal :=
  if x.significand = 0 then ⟨0, 0⟩ else x.interval.shortest

/-- Text of a number: its shortest decimal written out, with a sign if the sign bit is set. A NaN has
no sign. -/
def text (x : Binary64) : String :=
  if x.isNaN then "NaN"
  else (if x.isNegative then "-" else "") ++ (if x.isInfinite then "inf" else x.decimal.text)

end Binary64

end StyleScope
