import StyleScope.Number.Shortest
import StyleScope.Proofs.Number.Numeral
import StyleScope.Proofs.Number.Rounding

/-!
# Shortest decimals are shortest

On every grid of powers of ten the search looks at the two points next to the number. Since an interval
has no holes, a grid has a point in it exactly if one of these two is. So the search stops at the
coarsest grid with such a point. If its coefficient had more digits than that of another decimal in
the interval, a power of ten would lie between the two, on a coarser grid.
-/

namespace StyleScope

namespace RoundingInterval

variable {i : RoundingInterval}

/-- The rational `q` lies in the interval. -/
def Contains (i : RoundingInterval) (q : ℚ) : Prop :=
  Bounds i.closed (i.low * 10 ^ i.exponent) q ∧ Bounds i.closed q (i.high * 10 ^ i.exponent)

/-- What the interval around a number that is not zero has. -/
structure Proper (i : RoundingInterval) : Prop where
  holds_value : i.holds i.value = true
  holds_zero : i.holds 0 = false
  high_lt : i.high < 10 * i.value

theorem Contains.convex {p q r : ℚ} (hp : i.Contains p) (hr : i.Contains r) (hpq : p ≤ q) (hqr : q ≤ r) :
    i.Contains q :=
  ⟨hp.1.trans_le hpq, hr.2.of_le hqr⟩

theorem bounds_mul_iff {closed : Bool} {m n : Nat} {t : ℤ} :
    Bounds closed (m * 10 ^ t) (n * 10 ^ t) ↔ m ≤ n ∧ (m = n → closed = true) := by
  have ht : (0 : ℚ) < 10 ^ t := by positivity
  unfold Bounds
  rw [mul_le_mul_iff_left₀ ht, mul_left_inj' ht.ne', Nat.cast_le, Nat.cast_inj]

theorem contains_iff_holds {n : Nat} : i.Contains (n * 10 ^ i.exponent) ↔ i.holds n = true := by
  unfold Contains holds
  rw [bounds_mul_iff, bounds_mul_iff]
  cases i.closed
  · simp
    omega
  · simp

theorem contains_grid_iff {m j : Nat} : i.Contains (m * 10 ^ (i.exponent + j)) ↔ i.holds (m * 10 ^ j) = true := by
  have hpoint : (m * 10 ^ (i.exponent + j) : ℚ) = (m * 10 ^ j : Nat) * 10 ^ i.exponent := by
    rw [zpow_add₀ (by norm_num), zpow_natCast]
    push_cast
    ring
  rw [hpoint, contains_iff_holds]

theorem holds_convex {l m n : Nat} (hl : i.holds l = true) (hn : i.holds n = true) (hlm : l ≤ m) (hmn : m ≤ n) :
    i.holds m = true := by
  unfold holds at *
  cases hc : i.closed <;> simp only [hc] at * <;> simp at * <;> omega

/-! ## The search -/

theorem holds_of_onGrid? {step n : Nat} (h : i.onGrid? step = some n) : i.holds (n * step) = true := by
  unfold onGrid? at h
  dsimp only at h
  split at h
  · rename_i hbelow habove
    split at h <;> cases h <;> assumption
  · cases h; assumption
  · cases h; assumption
  · cases h

theorem not_holds_of_onGrid? {step : Nat} (hstep : 0 < step) (hvalue : i.holds i.value = true)
    (h : i.onGrid? step = none) (m : Nat) : i.holds (m * step) = false := by
  unfold onGrid? at h
  dsimp only at h
  split at h
  · cases h
  · cases h
  · cases h
  · rename_i hbelow habove
    rw [← Bool.not_eq_true]
    intro hm
    -- a point in the interval would draw in the neighbour of the value on its side
    by_cases hle : m ≤ i.value / step
    · have hpoint := holds_convex hm hvalue (Nat.mul_le_mul_right step hle) (Nat.div_mul_le_self _ _)
      simp [hpoint] at hbelow
    · have hlt : i.value < (i.value / step + 1) * step := by
        rw [Nat.mul_comm]
        exact Nat.lt_mul_div_succ _ hstep
      have hpoint := holds_convex hvalue hm hlt.le (Nat.mul_le_mul_right step (by omega))
      simp [hpoint] at habove

theorem exists_shortestFrom (hvalue : i.holds i.value = true) (k : Nat) :
    ∃ n j : Nat, i.shortestFrom k = ⟨n, i.exponent + j⟩ ∧ i.holds (n * 10 ^ j) = true ∧
      ∀ j', j < j' → j' ≤ k → ∀ m, i.holds (m * 10 ^ j') = false := by
  induction k with
  | zero => exact ⟨i.value, 0, by simp [shortestFrom], by simpa using hvalue, by omega⟩
  | succ k ih =>
    unfold shortestFrom
    cases hgrid : i.onGrid? (Nat.pow 10 (k + 1)) with
    | some n => exact ⟨n, k + 1, by simp, holds_of_onGrid? hgrid, by omega⟩
    | none =>
      obtain ⟨n, j, hn, hholds, hfiner⟩ := ih
      refine ⟨n, j, hn, hholds, fun j' hj hk m => ?_⟩
      rcases Nat.lt_or_eq_of_le hk with hlt | rfl
      · exact hfiner j' hj (by omega) m
      · exact not_holds_of_onGrid? (Nat.pow_pos (by decide)) hvalue hgrid m

theorem exists_shortest (h : i.Proper) :
    ∃ n j : Nat, i.shortest = ⟨n, i.exponent + j⟩ ∧ i.holds (n * 10 ^ j) = true ∧
      ∀ j', j < j' → ∀ m, i.holds (m * 10 ^ j') = false := by
  obtain ⟨n, j, hn, hholds, hcoarser⟩ := exists_shortestFrom h.holds_value (Nat.toDigits 10 i.value).length
  refine ⟨n, j, hn, hholds, fun j' hj m => ?_⟩
  by_cases hk : j' ≤ (Nat.toDigits 10 i.value).length
  · exact hcoarser j' hj hk m
  · -- the first grid is too coarse already to have a point but zero in the interval
    rcases Nat.eq_zero_or_pos m with rfl | hm
    · rw [Nat.zero_mul]
      exact h.holds_zero
    · have hvalue : i.value < 10 ^ (Nat.toDigits 10 i.value).length :=
        (Nat.length_toDigits_le_iff (by decide) Nat.length_toDigits_pos).mp le_rfl
      have hpow : 10 ^ ((Nat.toDigits 10 i.value).length + 1) ≤ m * 10 ^ j' :=
        (Nat.pow_le_pow_right (by decide) (by omega)).trans (Nat.le_mul_of_pos_left _ hm)
      have hhigh := h.high_lt
      rw [pow_succ] at hpow
      unfold holds
      cases i.closed <;> simp <;> omega

/-! ## Fewest digits -/

theorem contains_shortest (h : i.Proper) : i.Contains i.shortest.value := by
  obtain ⟨n, j, hn, hholds, -⟩ := exists_shortest h
  rw [hn]
  exact contains_grid_iff.mpr hholds

theorem coefficient_shortest_lt (h : i.Proper) {c p : Nat} {t : ℤ} (hc : c < 10 ^ p)
    (hcontains : i.Contains (c * 10 ^ t)) : i.shortest.coefficient < 10 ^ p := by
  obtain ⟨n, j, hn, hholds, hcoarser⟩ := exists_shortest h
  have hcoarse {j' : Nat} (hj : j < j') (m : Nat) : ¬ i.Contains (m * 10 ^ (i.exponent + j')) := by
    rw [contains_grid_iff, hcoarser j' hj m]
    simp
  have ht : t ≤ i.exponent + j := by
    by_contra hlt
    have hexp : t = i.exponent + (t - i.exponent).toNat := by omega
    rw [hexp] at hcontains
    exact hcoarse (by omega) c hcontains
  have hp : 0 < p := by
    by_contra hzero
    obtain rfl : c = 0 := by simpa [Nat.eq_zero_of_not_pos hzero] using hc
    have hpoint : i.Contains ((0 : Nat) * 10 ^ i.exponent) := by simpa using hcontains
    rw [contains_iff_holds, h.holds_zero] at hpoint
    cases hpoint
  rw [hn]
  by_contra hle
  -- the power of ten between the two decimals lies on a coarser grid
  have hlower : (c * 10 ^ t : ℚ) ≤ 10 ^ p * 10 ^ (i.exponent + j) := by
    gcongr
    · exact_mod_cast hc.le
    · norm_num
  have hupper : (10 ^ p * 10 ^ (i.exponent + j) : ℚ) ≤ n * 10 ^ (i.exponent + j) := by
    gcongr
    exact_mod_cast not_lt.mp hle
  have hpow := hcontains.convex (contains_grid_iff.mpr hholds) hlower hupper
  have hcoarser' := hcoarse (show j < j + p by omega) 1
  rw [Nat.cast_add, ← add_assoc, zpow_add₀ (by norm_num) (i.exponent + j), zpow_natCast, Nat.cast_one, one_mul,
    mul_comm] at hcoarser'
  exact hcoarser' hpow

end RoundingInterval

namespace Binary64

/-- The width of the lower half of the rounding interval, in quarters of the last place. -/
def quartersBelow (x : Binary64) : Nat :=
  if x.fraction = 0 ∧ 1 < x.exponent then 1 else 2

/-- The scale of the rounding interval: `unit * 10 ^ exponent` is a quarter of the last place. -/
theorem exists_unit (x : Binary64) : ∃ unit : Nat, (unit * 10 ^ x.interval.exponent : ℚ) = 2 ^ (x.scale - 2) ∧
    x.interval.value = 4 * x.significand * unit ∧
    x.interval.low = (4 * x.significand - x.quartersBelow) * unit ∧
    x.interval.high = (4 * x.significand + 2) * unit := by
  refine ⟨_, ?_, rfl, rfl, rfl⟩
  have hexponent : x.interval.exponent = min (x.scale - 2) 0 := rfl
  rw [hexponent]
  by_cases hquarter : x.scale - 2 < 0
  · obtain ⟨k, hk⟩ : ∃ k : Nat, x.scale - 2 = -k := ⟨(-(x.scale - 2)).toNat, by omega⟩
    have hten : (10 : ℚ) ^ k = 5 ^ k * 2 ^ k := by rw [← mul_pow]; norm_num
    rw [if_pos hquarter, min_eq_left hquarter.le, hk, neg_neg, Int.toNat_natCast, zpow_neg, zpow_neg, zpow_natCast,
      zpow_natCast, hten, Nat.pow_eq]
    push_cast
    field_simp
  · obtain ⟨k, hk⟩ : ∃ k : Nat, x.scale - 2 = k := ⟨(x.scale - 2).toNat, by omega⟩
    rw [if_neg hquarter, min_eq_right (by omega), hk, Int.toNat_natCast, zpow_zero, mul_one, zpow_natCast, Nat.pow_eq,
      Nat.cast_pow, Nat.cast_ofNat]

theorem magnitude_eq_quarters (x : Binary64) : x.magnitude = 4 * x.significand * 2 ^ (x.scale - 2) := by
  unfold magnitude
  rw [zpow_sub₀ two_ne_zero]
  ring

theorem quartersBelow_le (x : Binary64) : x.quartersBelow ≤ 2 := by
  unfold quartersBelow
  split <;> omega

theorem proper_interval {x : Binary64} (hx : x.significand ≠ 0) : x.interval.Proper := by
  obtain ⟨unit, hunit, hvalue, hlow, hhigh⟩ := x.exists_unit
  have hunit_pos : 0 < unit := by
    apply Nat.pos_of_ne_zero
    rintro rfl
    rw [Nat.cast_zero, zero_mul] at hunit
    exact (zpow_ne_zero _ two_ne_zero) hunit.symm
  have hbelow := x.quartersBelow_le
  have hbelow_pos : 0 < x.quartersBelow := by
    unfold quartersBelow
    split <;> omega
  have hlow_pos : 0 < x.interval.low := by
    rw [hlow]
    exact Nat.mul_pos (by omega) hunit_pos
  have hlow_lt : x.interval.low < x.interval.value := by
    rw [hlow, hvalue]
    exact Nat.mul_lt_mul_of_pos_right (by omega) hunit_pos
  have hlt_high : x.interval.value < x.interval.high := by
    rw [hvalue, hhigh]
    exact Nat.mul_lt_mul_of_pos_right (by omega) hunit_pos
  have hhigh_lt : x.interval.high < 10 * x.interval.value := by
    rw [hvalue, hhigh, ← Nat.mul_assoc]
    exact Nat.mul_lt_mul_of_pos_right (by omega) hunit_pos
  refine ⟨?_, ?_, hhigh_lt⟩
  · unfold RoundingInterval.holds
    split <;> simp only [Bool.and_eq_true, decide_eq_true_eq] <;> omega
  · unfold RoundingInterval.holds
    split <;> simp only [Bool.and_eq_false_iff, decide_eq_false_iff_not] <;> omega

/-! ## The interval holds what rounds to the number -/

theorem magnitude_add_magnitude_above {x y : Binary64} (h : y.rank = x.rank + 1) :
    x.magnitude + y.magnitude = 2 * (x.interval.high * 10 ^ x.interval.exponent) := by
  obtain ⟨unit, hunit, -, -, hhigh⟩ := x.exists_unit
  have hgap : (2 : ℚ) ^ x.scale = 4 * 2 ^ (x.scale - 2) := by
    rw [zpow_sub₀ two_ne_zero]
    ring
  calc x.magnitude + y.magnitude
      = 2 * ((4 * x.significand + 2) * 2 ^ (x.scale - 2)) := by
        rw [magnitude_of_rank_succ h, hgap, magnitude_eq_quarters]
        ring
    _ = 2 * (x.interval.high * 10 ^ x.interval.exponent) := by
        rw [← hunit, hhigh]
        push_cast
        ring

/-- Below a power of two the gap is half as wide, except at the lower end of the normal range. -/
theorem scale_of_rank_succ {x y : Binary64} (h : x.rank = y.rank + 1) :
    (2 : ℚ) ^ y.scale = 2 * x.quartersBelow * 2 ^ (x.scale - 2) := by
  have hscale : y.scale = if x.fraction = 0 ∧ 1 < x.exponent then x.scale - 1 else x.scale := by
    unfold scale
    rw [fraction_eq, exponent_eq, exponent_eq, h]
    split <;> omega
  rw [hscale, quartersBelow, zpow_sub₀ two_ne_zero x.scale 2]
  split
  · rw [zpow_sub_one₀ two_ne_zero]
    norm_num
    ring
  · norm_num
    ring

theorem magnitude_add_magnitude_below {x y : Binary64} (h : x.rank = y.rank + 1) :
    y.magnitude + x.magnitude = 2 * (x.interval.low * 10 ^ x.interval.exponent) := by
  obtain ⟨unit, hunit, -, hlow, -⟩ := x.exists_unit
  have hbelow : x.quartersBelow ≤ 4 * x.significand := by
    have := x.quartersBelow_le
    have : x.significand ≠ 0 := significand_eq_zero_iff.not.mpr (by omega)
    omega
  have hy : x.magnitude = y.magnitude + 2 * x.quartersBelow * 2 ^ (x.scale - 2) := by
    rw [magnitude_of_rank_succ h, scale_of_rank_succ h]
  calc y.magnitude + x.magnitude
      = 2 * x.magnitude - 2 * x.quartersBelow * 2 ^ (x.scale - 2) := by
        rw [hy]
        ring
    _ = 2 * (x.interval.low * 10 ^ x.interval.exponent) := by
        rw [← hunit, magnitude_eq_quarters, ← hunit, hlow, Nat.cast_mul, Nat.cast_sub hbelow]
        push_cast
        ring

theorem bounds_two_mul_iff {closed : Bool} {a b : ℚ} : Bounds closed (2 * a) (2 * b) ↔ Bounds closed a b := by
  unfold Bounds
  rw [mul_le_mul_iff_right₀ two_pos, mul_right_inj' two_ne_zero]

/-- The numbers that round to `x` are those in its interval. -/
theorem roundsTo_iff_contains {x : Binary64} (hfinite : x.IsFinite) (hx : x.significand ≠ 0) {negative : Bool}
    {q : ℚ} : RoundsTo negative q x ↔ x.isNegative = negative ∧ x.interval.Contains q := by
  have hrank := isFinite_iff.mp hfinite
  have hrank_pos : x.rank ≠ 0 := significand_eq_zero_iff.not.mp hx
  obtain ⟨below, hbelow⟩ := exists_rank_eq (r := x.rank - 1) (by omega)
  obtain ⟨above, habove⟩ := exists_rank_eq (r := x.rank + 1) (by omega)
  have hclosed : x.interval.closed = x.isEven := rfl
  unfold RoundingInterval.Contains
  rw [hclosed, ← bounds_two_mul_iff, ← magnitude_add_magnitude_below (y := below) (by omega),
    ← bounds_two_mul_iff (a := q), ← magnitude_add_magnitude_above habove]
  constructor
  · intro h
    exact ⟨h.sign, h.bounds_lower (isNaN_eq_false_iff.mpr (by omega)) (by omega),
      h.bounds_upper (isNaN_eq_false_iff.mpr (by omega)) (by omega)⟩
  · intro ⟨hsign, hlower, hupper⟩
    refine .of_neighbours (isNaN_eq_false_iff.mpr hrank.le) hsign (fun y hy => ?_) (fun y hy => ?_)
    · rwa [magnitude_eq y, show y.rank = below.rank by omega, ← magnitude_eq]
    · rwa [magnitude_eq y, show y.rank = above.rank by omega, ← magnitude_eq]

theorem roundsTo_zero {x : Binary64} (hx : x.significand = 0) : RoundsTo x.isNegative 0 x := by
  have hrank := significand_eq_zero_iff.mp hx
  have hmagnitude : x.magnitude = 0 := by simp [magnitude, hx]
  refine .of_neighbours (isNaN_eq_false_iff.mpr (by omega)) rfl (by omega) (fun y hy => ?_)
  have hlt := magnitude_lt_iff.mpr (show x.rank < y.rank by omega)
  rw [hmagnitude, mul_zero, zero_add]
  rw [hmagnitude] at hlt
  exact ⟨hlt.le, fun heq => absurd heq hlt.ne⟩

theorem roundsTo_decimal {x : Binary64} (hfinite : x.IsFinite) : RoundsTo x.isNegative x.decimal.value x := by
  unfold decimal
  by_cases hx : x.significand = 0
  · rw [if_pos hx, Decimal.value, Nat.cast_zero, zero_mul]
    exact roundsTo_zero hx
  · rw [if_neg hx]
    exact (roundsTo_iff_contains hfinite hx).mpr ⟨rfl, RoundingInterval.contains_shortest (proper_interval hx)⟩

theorem coefficient_decimal_lt {x : Binary64} (hfinite : x.IsFinite) (hx : x.significand ≠ 0) {negative : Bool}
    {c p : Nat} {t : ℤ} (hc : c < 10 ^ p) (h : RoundsTo negative (c * 10 ^ t) x) : x.decimal.coefficient < 10 ^ p := by
  unfold decimal
  rw [if_neg hx]
  exact RoundingInterval.coefficient_shortest_lt (proper_interval hx) hc ((roundsTo_iff_contains hfinite hx).mp h).2

end Binary64

end StyleScope
