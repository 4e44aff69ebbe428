import Mathlib
import StyleScope.Number.Binary64

/-!
# Rounding to the nearest number

A rational rounds to the number nearest to it and, halfway between two numbers, to the one with the even
significand. Numbers of one sign are ordered as their bits are: the bits without the sign rank the
magnitudes, and the next rank has the other parity and lies one last place further. So which rationals
round to a number is settled by its two neighbours in rank, and no rational rounds to two numbers.
-/

namespace StyleScope

/-! ## Distances -/

section
variable {a b q : ℚ}

theorem abs_sub_le_abs_sub_iff_two_mul_le (h : a < b) : |q - a| ≤ |q - b| ↔ 2 * q ≤ a + b := by
  have hfactor : (q - b) ^ 2 - (q - a) ^ 2 = (b - a) * (a + b - 2 * q) := by ring
  rw [← sq_le_sq, ← sub_nonneg, hfactor, mul_nonneg_iff_of_pos_left (sub_pos.mpr h), sub_nonneg]

theorem abs_sub_le_abs_sub_iff_le_two_mul (h : a < b) : |q - b| ≤ |q - a| ↔ a + b ≤ 2 * q := by
  have hfactor : (q - a) ^ 2 - (q - b) ^ 2 = (b - a) * (2 * q - (a + b)) := by ring
  rw [← sq_le_sq, ← sub_nonneg, hfactor, mul_nonneg_iff_of_pos_left (sub_pos.mpr h), sub_nonneg]

end

/-- `a` is at most `b`, and they are equal only if the bound is closed. -/
def Bounds (closed : Bool) (a b : ℚ) : Prop :=
  a ≤ b ∧ (a = b → closed = true)

theorem Bounds.trans_le {closed : Bool} {a b c : ℚ} (h : Bounds closed a b) (hbc : b ≤ c) : Bounds closed a c :=
  ⟨h.1.trans hbc, fun hac => h.2 (le_antisymm h.1 (hac ▸ hbc))⟩

theorem Bounds.of_le {closed : Bool} {a b c : ℚ} (h : Bounds closed b c) (hab : a ≤ b) : Bounds closed a c :=
  ⟨hab.trans h.1, fun hac => h.2 (le_antisymm h.1 (hac ▸ hab))⟩

namespace Binary64

/-- The absolute value of a number. An infinity stands where the next finite number would be, for from
halfway there numbers round to it. -/
def magnitude (x : Binary64) : ℚ :=
  x.significand * 2 ^ x.scale

/-- Neither a NaN nor an infinity. -/
def IsFinite (x : Binary64) : Prop :=
  x.exponent ≠ 2047

instance : DecidablePred IsFinite := fun x =>
  inferInstanceAs (Decidable (x.exponent ≠ 2047))

/-- The rational of magnitude `q` and the given sign rounds to `x`: to the nearest, ties to even. The sign
is kept, also by a zero. -/
structure RoundsTo (negative : Bool) (q : ℚ) (x : Binary64) : Prop where
  not_nan : x.isNaN = false
  sign : x.isNegative = negative
  nearest : ∀ y : Binary64, y.isNaN = false → |q - x.magnitude| ≤ |q - y.magnitude|
  even : ∀ y : Binary64, y.isNaN = false → y.magnitude ≠ x.magnitude → |q - y.magnitude| = |q - x.magnitude| →
    x.significand % 2 = 0

/-! ## Ranks -/

/-- The place of a number in the order of magnitudes: its bits without the sign. -/
def rank (x : Binary64) : Nat :=
  x.bits.toNat % 2 ^ 63

/-- The distance from the magnitude of rank `r` to the next one, in units of the least magnitude. -/
def gapAt (r : Nat) : Nat :=
  2 ^ (max (r / 2 ^ 52) 1 - 1)

/-- The magnitude of rank `r`, in units of the least one. -/
def unitsAt (r : Nat) : Nat :=
  (if r / 2 ^ 52 = 0 then r % 2 ^ 52 else 2 ^ 52 + r % 2 ^ 52) * gapAt r

theorem gapAt_pos (r : Nat) : 0 < gapAt r :=
  Nat.two_pow_pos _

theorem exponent_eq (x : Binary64) : x.exponent = x.rank / 2 ^ 52 := by
  unfold exponent rank
  norm_num
  omega

theorem fraction_eq (x : Binary64) : x.fraction = x.rank % 2 ^ 52 := by
  unfold fraction rank
  norm_num

theorem rank_lt (x : Binary64) : x.rank < 2 ^ 63 :=
  Nat.mod_lt _ (by norm_num)

theorem isNaN_eq_false_iff {x : Binary64} : x.isNaN = false ↔ x.rank ≤ 2047 * 2 ^ 52 := by
  have := x.rank_lt
  unfold isNaN
  rw [exponent_eq, fraction_eq]
  simp only [Bool.and_eq_false_iff, beq_eq_false_iff_ne, bne_eq_false_iff_eq]
  omega

theorem isFinite_iff {x : Binary64} : x.IsFinite ↔ x.rank < 2047 * 2 ^ 52 := by
  have := x.rank_lt
  unfold IsFinite
  rw [exponent_eq]
  omega

theorem exists_rank_eq {r : Nat} (hr : r < 2 ^ 63) : ∃ x : Binary64, x.rank = r := by
  refine ⟨⟨UInt64.ofNat r⟩, ?_⟩
  unfold rank
  rw [UInt64.toNat_ofNat_of_lt' (by rw [UInt64.size]; omega)]
  exact Nat.mod_eq_of_lt hr

theorem eq_of_rank_eq {x y : Binary64} (hsign : x.isNegative = y.isNegative) (hrank : x.rank = y.rank) : x = y := by
  have hx := x.bits.toNat_lt
  have hy := y.bits.toNat_lt
  have hbits : x.bits.toNat = y.bits.toNat := by
    unfold isNegative at hsign
    unfold rank at hrank
    rw [decide_eq_decide, show Nat.pow 2 63 = 2 ^ 63 from rfl] at hsign
    omega
  exact congrArg mk (UInt64.toNat_inj.mp hbits)

theorem significand_eq (x : Binary64) :
    x.significand = if x.rank / 2 ^ 52 = 0 then x.rank % 2 ^ 52 else 2 ^ 52 + x.rank % 2 ^ 52 := by
  unfold significand
  rw [exponent_eq, fraction_eq, show Nat.pow 2 52 = 2 ^ 52 from rfl]

theorem significand_eq_zero_iff {x : Binary64} : x.significand = 0 ↔ x.rank = 0 := by
  rw [significand_eq]
  split <;> omega

theorem significand_mod_two (x : Binary64) : x.significand % 2 = x.rank % 2 := by
  rw [significand_eq]
  split <;> omega

/-- The last place of a number is its gap to the next one. -/
theorem two_pow_scale (x : Binary64) : (2 : ℚ) ^ x.scale = gapAt x.rank * 2 ^ (-1074 : ℤ) := by
  have hscale : x.scale = (max (x.rank / 2 ^ 52) 1 - 1 : Nat) + (-1074) := by
    unfold scale
    rw [exponent_eq]
    omega
  rw [hscale, zpow_add₀ two_ne_zero, zpow_natCast, gapAt, Nat.cast_pow, Nat.cast_ofNat]

theorem magnitude_eq (x : Binary64) : x.magnitude = unitsAt x.rank * 2 ^ (-1074 : ℤ) := by
  unfold magnitude unitsAt
  rw [two_pow_scale, ← mul_assoc, ← significand_eq, Nat.cast_mul]

theorem unitsAt_succ (r : Nat) : unitsAt (r + 1) = unitsAt r + gapAt r := by
  unfold unitsAt gapAt
  by_cases hcarry : (r + 1) % 2 ^ 52 = 0
  · have hdiv : (r + 1) / 2 ^ 52 = r / 2 ^ 52 + 1 := by omega
    have hmod : r % 2 ^ 52 = 2 ^ 52 - 1 := by omega
    rw [hdiv, hcarry, hmod, if_neg (Nat.succ_ne_zero _)]
    -- the fraction is full: the first of the next exponent, which has twice the gap unless `r` is subnormal
    cases hexp : r / 2 ^ 52 with
    | zero => norm_num
    | succ e =>
      rw [if_neg (Nat.succ_ne_zero _), max_eq_left (by omega), max_eq_left (by omega), Nat.add_sub_cancel,
        Nat.add_sub_cancel, pow_succ]
      ring
  · have hdiv : (r + 1) / 2 ^ 52 = r / 2 ^ 52 := by omega
    have hmod : (r + 1) % 2 ^ 52 = r % 2 ^ 52 + 1 := by omega
    rw [hdiv, hmod]
    split <;> ring

theorem unitsAt_strictMono : StrictMono unitsAt := by
  refine strictMono_nat_of_lt_succ fun r => ?_
  rw [unitsAt_succ]
  exact Nat.lt_add_of_pos_right (gapAt_pos r)

theorem magnitude_lt_iff {x y : Binary64} : x.magnitude < y.magnitude ↔ x.rank < y.rank := by
  rw [magnitude_eq, magnitude_eq, mul_lt_mul_iff_left₀ (by positivity), Nat.cast_lt,
    unitsAt_strictMono.lt_iff_lt]

theorem magnitude_le_iff {x y : Binary64} : x.magnitude ≤ y.magnitude ↔ x.rank ≤ y.rank := by
  rw [← not_lt, ← not_lt, magnitude_lt_iff]

theorem magnitude_of_rank_succ {x y : Binary64} (h : y.rank = x.rank + 1) :
    y.magnitude = x.magnitude + 2 ^ x.scale := by
  rw [magnitude_eq, magnitude_eq, h, unitsAt_succ, Nat.cast_add, add_mul, two_pow_scale]

/-! ## Neighbours decide -/

def isEven (x : Binary64) : Bool :=
  x.significand % 2 == 0

theorem isEven_ne_of_rank_succ {x y : Binary64} (h : y.rank = x.rank + 1) : ¬ (x.isEven = true ∧ y.isEven = true) := by
  unfold isEven
  rw [significand_mod_two, significand_mod_two, beq_iff_eq, beq_iff_eq]
  omega

namespace RoundsTo

variable {negative : Bool} {q : ℚ} {x y : Binary64}

theorem bounds_lower (h : RoundsTo negative q x) (hy : y.isNaN = false) (hlt : y.rank < x.rank) :
    Bounds x.isEven (y.magnitude + x.magnitude) (2 * q) := by
  have hmag := magnitude_lt_iff.mpr hlt
  refine ⟨(abs_sub_le_abs_sub_iff_le_two_mul hmag).mp (h.nearest y hy), fun heq => ?_⟩
  have htie : |q - y.magnitude| = |q - x.magnitude| :=
    le_antisymm ((abs_sub_le_abs_sub_iff_two_mul_le hmag).mpr heq.ge) (h.nearest y hy)
  exact beq_iff_eq.mpr (h.even y hy hmag.ne htie)

theorem bounds_upper (h : RoundsTo negative q x) (hy : y.isNaN = false) (hlt : x.rank < y.rank) :
    Bounds x.isEven (2 * q) (x.magnitude + y.magnitude) := by
  have hmag := magnitude_lt_iff.mpr hlt
  refine ⟨(abs_sub_le_abs_sub_iff_two_mul_le hmag).mp (h.nearest y hy), fun heq => ?_⟩
  have htie : |q - y.magnitude| = |q - x.magnitude| :=
    le_antisymm ((abs_sub_le_abs_sub_iff_le_two_mul hmag).mpr heq.ge) (h.nearest y hy)
  exact beq_iff_eq.mpr (h.even y hy hmag.ne' htie)

theorem not_rank_lt (h : RoundsTo negative q x) (h' : RoundsTo negative q y) : ¬ x.rank < y.rank := by
  intro hlt
  have hupper := h.bounds_upper h'.not_nan hlt
  have hlower := h'.bounds_lower h.not_nan hlt
  have htie : 2 * q = x.magnitude + y.magnitude := le_antisymm hupper.1 hlower.1
  -- the number right above `x` is no farther than `y`, so it is `y`, and one of the two is odd
  have hytop := isNaN_eq_false_iff.mp h'.not_nan
  obtain ⟨z, hz⟩ := exists_rank_eq (r := x.rank + 1) (by omega)
  have hznan : z.isNaN = false := isNaN_eq_false_iff.mpr (by omega)
  have hyz : y.magnitude ≤ z.magnitude := by
    have := (h.bounds_upper hznan (by omega)).1
    linarith
  have hrank := magnitude_le_iff.mp hyz
  exact isEven_ne_of_rank_succ (by omega) ⟨hupper.2 htie, hlower.2 htie.symm⟩

theorem unique (h : RoundsTo negative q x) (h' : RoundsTo negative q y) : x = y := by
  have hxy := h.not_rank_lt h'
  have hyx := h'.not_rank_lt h
  exact eq_of_rank_eq (h.sign.trans h'.sign.symm) (by omega)

theorem magnitude_eq_zero (h : RoundsTo negative 0 x) : x.magnitude = 0 := by
  have hzero : magnitude ⟨0⟩ = 0 := by simp [magnitude, significand_eq, rank]
  have hnearest := h.nearest ⟨0⟩ (by decide)
  rw [hzero, sub_zero, abs_zero, zero_sub, abs_neg] at hnearest
  exact abs_eq_zero.mp (le_antisymm hnearest (abs_nonneg _))

theorem of_neighbours (hx : x.isNaN = false) (hsign : x.isNegative = negative)
    (hlower : ∀ y : Binary64, y.rank + 1 = x.rank → Bounds x.isEven (y.magnitude + x.magnitude) (2 * q))
    (hupper : ∀ y : Binary64, y.rank = x.rank + 1 → Bounds x.isEven (2 * q) (x.magnitude + y.magnitude)) :
    RoundsTo negative q x := by
  have hlower' : ∀ y : Binary64, y.rank < x.rank → Bounds x.isEven (y.magnitude + x.magnitude) (2 * q) := by
    intro y hlt
    obtain ⟨z, hz⟩ := exists_rank_eq (r := x.rank - 1) (by have := x.rank_lt; omega)
    have hyz : y.magnitude ≤ z.magnitude := magnitude_le_iff.mpr (by omega)
    exact (hlower z (by omega)).of_le (by linarith)
  have hupper' : ∀ y : Binary64, x.rank < y.rank → Bounds x.isEven (2 * q) (x.magnitude + y.magnitude) := by
    intro y hlt
    obtain ⟨z, hz⟩ := exists_rank_eq (r := x.rank + 1) (by have := y.rank_lt; omega)
    have hzy : z.magnitude ≤ y.magnitude := magnitude_le_iff.mpr (by omega)
    exact (hupper z hz).trans_le (by linarith)
  refine ⟨hx, hsign, fun y _ => ?_, fun y _ hne htie => ?_⟩
  · rcases lt_trichotomy y.rank x.rank with hlt | heq | hlt
    · exact (abs_sub_le_abs_sub_iff_le_two_mul (magnitude_lt_iff.mpr hlt)).mpr (hlower' y hlt).1
    · rw [magnitude_eq x, magnitude_eq y, heq]
    · exact (abs_sub_le_abs_sub_iff_two_mul_le (magnitude_lt_iff.mpr hlt)).mpr (hupper' y hlt).1
  · apply beq_iff_eq.mp
    rcases hne.lt_or_gt with hlt | hlt
    · have hbound := hlower' y (magnitude_lt_iff.mp hlt)
      exact hbound.2 (le_antisymm hbound.1 ((abs_sub_le_abs_sub_iff_two_mul_le hlt).mp htie.le))
    · have hbound := hupper' y (magnitude_lt_iff.mp hlt)
      exact hbound.2 (le_antisymm hbound.1 ((abs_sub_le_abs_sub_iff_le_two_mul hlt).mp htie.le))

end RoundsTo

end Binary64

end StyleScope
