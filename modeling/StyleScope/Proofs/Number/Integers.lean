import StyleScope.Proofs.Number.RoundTrip
import StyleScope.Value.Convert

/-!
# Integers are written as themselves

The interval around an integer whose last place is at most one holds no other integer. The grid of the
integers has a point in it, so the search for the shortest decimal stops there or at a coarser grid, and what
it finds is the integer itself, less its trailing zeros, which the text puts back. An integer of 32 bits is
such a number, so it can be read off its value and off the text of its value.
-/

namespace StyleScope

/-! ## Integral decimals -/

theorem toDigits_mul_ten_pow {c : Nat} (hc : 0 < c) (k : Nat) :
    Nat.toDigits 10 (c * 10 ^ k) = Nat.toDigits 10 c ++ List.replicate k '0' := by
  induction k with
  | zero => simp
  | succ k ih =>
    have hpos : 0 < c * 10 ^ k := by positivity
    have hstep : c * 10 ^ (k + 1) = 10 * (c * 10 ^ k) + 0 := by ring
    rw [hstep, ← Nat.toDigits_append_toDigits (by decide) hpos (by decide), ih, List.append_assoc,
      List.replicate_succ']
    rfl

theorem Decimal.text_eq_toString {d : Decimal} {m k : Nat} (hexponent : d.exponent = k) (hm : m ≠ 0)
    (hvalue : d.coefficient * 10 ^ k = m) : d.text = toString m := by
  have hc : 0 < d.coefficient := by
    apply Nat.pos_of_ne_zero
    intro hzero
    rw [hzero, Nat.zero_mul] at hvalue
    exact hm hvalue.symm
  unfold text
  dsimp only
  rw [hexponent, if_pos (by omega), Int.toNat_natCast, ← toDigits_mul_ten_pow hc, hvalue]
  rfl

namespace Binary64

/-! ## The interval around an integer -/

theorem magnitude_eq_zero_iff {x : Binary64} : x.magnitude = 0 ↔ x.significand = 0 := by
  rw [magnitude, mul_eq_zero, Nat.cast_eq_zero, or_iff_left (zpow_ne_zero _ two_ne_zero)]

theorem value_interval (x : Binary64) : (x.interval.value * 10 ^ x.interval.exponent : ℚ) = x.magnitude := by
  obtain ⟨unit, hunit, hvalue, -, -⟩ := x.exists_unit
  rw [hvalue, magnitude_eq_quarters, ← hunit]
  push_cast
  ring

theorem abs_sub_magnitude_le {x : Binary64} (hx : x.significand ≠ 0) {q : ℚ} (h : x.interval.Contains q) :
    |q - x.magnitude| ≤ 2 * 2 ^ (x.scale - 2) := by
  obtain ⟨unit, hunit, -, hlow, hhigh⟩ := x.exists_unit
  have hbelow := x.quartersBelow_le
  have hlower : x.magnitude - x.quartersBelow * 2 ^ (x.scale - 2) = x.interval.low * 10 ^ x.interval.exponent := by
    rw [hlow, magnitude_eq_quarters, ← hunit, Nat.cast_mul, Nat.cast_sub (by omega)]
    push_cast
    ring
  have hupper : x.magnitude + 2 * 2 ^ (x.scale - 2) = x.interval.high * 10 ^ x.interval.exponent := by
    rw [hhigh, magnitude_eq_quarters, ← hunit]
    push_cast
    ring
  have hwidth : x.quartersBelow * (2 : ℚ) ^ (x.scale - 2) ≤ 2 * 2 ^ (x.scale - 2) := by
    gcongr
    exact_mod_cast hbelow
  rw [abs_le]
  constructor
  · linarith [h.1.1]
  · linarith [h.2.1]

theorem eq_of_contains {x : Binary64} (hscale : x.scale ≤ 0) (hx : x.significand ≠ 0) {m n : Nat}
    (hm : x.magnitude = m) (h : x.interval.Contains n) : n = m := by
  have hquarter : (2 : ℚ) ^ (x.scale - 2) ≤ 2 ^ (-2 : ℤ) := by
    gcongr
    · norm_num
    · omega
  have hdist : |((n : ℤ) : ℚ) - (m : ℤ)| < (1 : ℤ) := by
    have habs := abs_sub_magnitude_le hx h
    rw [hm] at habs
    norm_num at hquarter habs ⊢
    linarith
  rw [← Int.cast_sub, ← Int.cast_abs, Int.cast_lt, Int.abs_lt_one_iff] at hdist
  omega

theorem exists_decimal_of_integral {x : Binary64} (hscale : x.scale ≤ 0) {m : Nat} (hm : m ≠ 0)
    (hx : x.magnitude = m) : ∃ k : Nat, x.decimal.exponent = k ∧ x.decimal.coefficient * 10 ^ k = m := by
  have hsignificand : x.significand ≠ 0 := by
    rw [ne_eq, ← magnitude_eq_zero_iff, hx, Nat.cast_eq_zero]
    exact hm
  obtain ⟨n, j, hn, hholds, hcoarser⟩ := RoundingInterval.exists_shortest (proper_interval hsignificand)
  obtain ⟨e, he⟩ : ∃ e : Nat, x.interval.exponent + e = 0 := by
    have hexponent : x.interval.exponent = min (x.scale - 2) 0 := rfl
    exact ⟨(-x.interval.exponent).toNat, by omega⟩
  -- on the grid of the integers the interval has the point `m`, so the search does not get past that grid
  have hgrid : x.interval.Contains (m * 10 ^ (x.interval.exponent + e)) := by
    rw [he, zpow_zero, mul_one, ← hx, ← value_interval]
    exact RoundingInterval.contains_iff_holds.mpr (proper_interval hsignificand).holds_value
  have hej : e ≤ j := by
    by_contra hlt
    rw [RoundingInterval.contains_grid_iff, hcoarser e (by omega) m] at hgrid
    cases hgrid
  have hpoint : x.interval.Contains ((n * 10 ^ (j - e) : Nat) : ℚ) := by
    have hexp : x.interval.exponent + j = (j - e : Nat) := by omega
    have hcontains := RoundingInterval.contains_grid_iff.mpr hholds
    rw [hexp, zpow_natCast] at hcontains
    exact_mod_cast hcontains
  unfold decimal
  rw [if_neg hsignificand, hn]
  exact ⟨j - e, by dsimp only; omega, eq_of_contains hscale hsignificand hx hpoint⟩

theorem text_decimal_of_integral {x : Binary64} (hscale : x.scale ≤ 0) {m : Nat} (hx : x.magnitude = m) :
    x.decimal.text = toString m := by
  by_cases hm : m = 0
  · have hzero : x.significand = 0 := by
      rw [← magnitude_eq_zero_iff, hx, hm, Nat.cast_zero]
    rw [decimal, if_pos hzero, hm]
    decide
  · obtain ⟨k, hexponent, hvalue⟩ := exists_decimal_of_integral hscale hm hx
    exact Decimal.text_eq_toString hexponent hm hvalue

/-! ## Integers of 32 bits -/

/-- The rational that a finite number denotes. -/
def value (x : Binary64) : ℚ :=
  if x.isNegative then -x.magnitude else x.magnitude

section
variable {negative : Bool} {e f : Nat} (he : e < 2 ^ 11) (hf : f < 2 ^ 52)
include he hf

theorem toNat_bits_ofFields :
    (ofFields negative e f).bits.toNat = (if negative then 2 ^ 63 else 0) + e * 2 ^ 52 + f := by
  unfold ofFields
  rw [UInt64.toNat_ofNat_of_lt']
  · rfl
  · rw [UInt64.size]
    cases negative <;> simp <;> omega

theorem rank_ofFields : (ofFields negative e f).rank = e * 2 ^ 52 + f := by
  unfold rank
  rw [toNat_bits_ofFields he hf]
  cases negative <;> simp <;> omega

theorem isNegative_ofFields : (ofFields negative e f).isNegative = negative := by
  unfold isNegative
  rw [toNat_bits_ofFields he hf]
  cases negative <;> simp <;> omega

end

theorem leading_bit_in_place {m : Nat} (hm : m ≠ 0) (htop : m.log2 ≤ 52) :
    2 ^ 52 ≤ m * 2 ^ (52 - m.log2) ∧ m * 2 ^ (52 - m.log2) < 2 ^ 53 := by
  have hsplit : 2 ^ m.log2 * 2 ^ (52 - m.log2) = 2 ^ 52 := pow_mul_pow_sub 2 htop
  constructor
  · calc 2 ^ 52 = 2 ^ m.log2 * 2 ^ (52 - m.log2) := hsplit.symm
      _ ≤ m * 2 ^ (52 - m.log2) := Nat.mul_le_mul_right _ (Nat.log2_self_le hm)
  · calc m * 2 ^ (52 - m.log2) < 2 ^ (m.log2 + 1) * 2 ^ (52 - m.log2) :=
          Nat.mul_lt_mul_of_pos_right Nat.lt_log2_self (Nat.two_pow_pos _)
      _ = 2 ^ 53 := by rw [pow_succ, mul_right_comm, hsplit]; rfl

/-- The number is the integer `n`, not negative if `n` is zero, and its last place is at most one. -/
structure Denotes (x : Binary64) (n : ℤ) : Prop where
  scale_le : x.scale ≤ 0
  sign : x.isNegative = decide (n < 0)
  magnitude : x.magnitude = n.natAbs

theorem denotes_ofFields {n : ℤ} (hn : n ≠ 0) (htop : n.natAbs.log2 ≤ 52) :
    Denotes (ofFields (n < 0) (1023 + n.natAbs.log2) (n.natAbs * 2 ^ (52 - n.natAbs.log2) - 2 ^ 52)) n := by
  obtain ⟨hlow, hhigh⟩ := leading_bit_in_place (Int.natAbs_ne_zero.mpr hn) htop
  have he : 1023 + n.natAbs.log2 < 2 ^ 11 := by omega
  have hf : n.natAbs * 2 ^ (52 - n.natAbs.log2) - 2 ^ 52 < 2 ^ 52 := by omega
  generalize hx : ofFields _ _ _ = x
  have hrank : x.rank = _ := hx ▸ rank_ofFields he hf
  have hscale : x.scale = n.natAbs.log2 - 52 := by
    unfold scale
    rw [exponent_eq, hrank]
    omega
  have hsignificand : x.significand = n.natAbs * 2 ^ (52 - n.natAbs.log2) := by
    rw [significand_eq, hrank, if_neg (by omega)]
    omega
  refine ⟨by omega, hx ▸ isNegative_ofFields he hf, ?_⟩
  have hcancel : (2 : ℚ) ^ (52 - n.natAbs.log2) * 2 ^ (n.natAbs.log2 - 52 : ℤ) = 1 := by
    rw [← zpow_natCast, ← zpow_add₀ two_ne_zero, Nat.cast_sub htop]
    norm_num
  rw [Binary64.magnitude, hsignificand, hscale, Nat.cast_mul, Nat.cast_pow, Nat.cast_ofNat, mul_assoc, hcancel,
    mul_one]

theorem denotes_ofInt32 (n : Int32) : Denotes (ofInt32 n) n.toInt := by
  unfold ofInt32
  dsimp only
  by_cases hn : n.toInt = 0
  · rw [if_pos (by omega), hn]
    exact ⟨by decide, by decide, by simp [Binary64.magnitude, significand_eq, rank, ofFields]⟩
  · rw [if_neg (by omega)]
    have := n.toInt_lt
    have := n.le_toInt
    have htop : n.toInt.natAbs.log2 < 32 := (Nat.log2_lt (by omega)).mpr (by omega)
    exact denotes_ofFields hn (by omega)

namespace Denotes

variable {x : Binary64} {n : ℤ}

theorem isFinite (h : Denotes x n) : x.IsFinite := by
  have := h.scale_le
  unfold scale at this
  unfold IsFinite
  omega

theorem value_eq (h : Denotes x n) : x.value = n := by
  unfold value
  rw [h.sign, h.magnitude, Nat.cast_natAbs]
  by_cases hn : n < 0
  · simp [hn, abs_of_neg]
  · simp [hn, abs_of_nonneg (not_lt.mp hn)]

theorem text_eq (h : Denotes x n) : x.text = toString n := by
  have hsign : toString n = (if n < 0 then "-" else "") ++ toString n.natAbs := by
    cases n with
    | ofNat m => exact (String.empty_append).symm
    | negSucc m =>
      rw [if_pos (Int.negSucc_lt_zero m)]
      rfl
  rw [text_of_isFinite h.isFinite, Decimal.text_numeral, text_decimal_of_integral h.scale_le h.magnitude, h.sign,
    hsign]
  simp

end Denotes

theorem ofInt32_injective {m n : Int32} (h : ofInt32 m = ofInt32 n) : m = n := by
  have hvalue : (m.toInt : ℚ) = n.toInt := by
    rw [← (denotes_ofInt32 m).value_eq, h, (denotes_ofInt32 n).value_eq]
  exact Int32.toInt_inj.mp (Int.cast_injective hvalue)

end Binary64

namespace Value

theorem toValue_int32_injective : Function.Injective (toValue : Int32 → Value) :=
  fun _ _ h => Binary64.ofInt32_injective (number.inj h)

/-- **Integers survive conversion.** The value of an integer of 32 bits is the number that denotes it, never a
negative zero, and is written as its numeral; the value of a list of them is written as their join, and no two
lists have the same value. -/
theorem integers_denoted_and_written_as_numerals :
    (∀ n : Int32, ∃ x : Binary64, toValue n = number x ∧ x.IsFinite ∧ x.value = n.toInt ∧
      (x.isNegative = true ↔ n.toInt < 0) ∧ (toValue n).text = toString n.toInt) ∧
    (∀ ns : List Int32, (toValue ns).text = ", ".intercalate (ns.map fun n => toString n.toInt)) ∧
    ∀ ms ns : List Int32, (toValue ms == toValue ns) = true ↔ ms = ns := by
  have htext (n : Int32) : (toValue n).text = toString n.toInt := (Binary64.denotes_ofInt32 n).text_eq
  refine ⟨fun n => ?_, fun ns => ?_, fun ms ns => ?_⟩
  · have h := Binary64.denotes_ofInt32 n
    refine ⟨.ofInt32 n, rfl, h.isFinite, h.value_eq, ?_, htext n⟩
    rw [h.sign, decide_eq_true_iff]
  · have hlist : toValue ns = list (ns.map toValue) := rfl
    rw [hlist, text, texts_eq_map, List.map_map]
    exact congrArg _ (List.map_congr_left fun n _ => htext n)
  · rw [beq_iff_eq]
    constructor
    · intro h
      exact List.map_injective_iff.mpr toValue_int32_injective (list.inj h)
    · rintro rfl
      rfl

end Value

end StyleScope
