import Mathlib
import StyleScope.Number.Decimal

/-!
# Numerals

Plain decimal notation is an optional minus, digits, and optionally a point with digits after it. A text
is read as a numeral in at most one way, and the numeral stands for an exact rational. Every decimal is
written as a numeral of its value that has no more significant digits than its coefficient has digits.
-/

namespace StyleScope

/-- The rational a decimal stands for. -/
def Decimal.value (d : Decimal) : ℚ :=
  d.coefficient * 10 ^ d.exponent

/-- A number in plain decimal notation. -/
@[ext]
structure Numeral where
  negative : Bool
  whole : List Char
  /-- The digits after the point, which is left out if there are none. -/
  places : List Char
  whole_ne_nil : whole ≠ []
  isDigit_whole : ∀ c ∈ whole, c.isDigit = true
  isDigit_places : ∀ c ∈ places, c.isDigit = true

/-- The digits without the zeros at both ends. -/
def trimZeros (digits : List Char) : List Char :=
  ((digits.dropWhile (· == '0')).reverse.dropWhile (· == '0')).reverse

namespace Numeral

/-- All digits from the first to the last. -/
def digits (n : Numeral) : List Char :=
  n.whole ++ n.places

/-- The point and the digits after it. -/
def fraction (n : Numeral) : List Char :=
  if n.places = [] then [] else '.' :: n.places

def text (n : Numeral) : String :=
  String.ofList ((if n.negative then ['-'] else []) ++ (n.whole ++ n.fraction))

/-- The absolute value, an exact rational. -/
def magnitude (n : Numeral) : ℚ :=
  Nat.ofDigitChars 10 n.digits 0 / 10 ^ n.places.length

/-- How many digits count: zeros at both ends do not. -/
def significantDigits (n : Numeral) : Nat :=
  (trimZeros n.digits).length

/-! ## Texts -/

theorem takeWhile_whole_append (n : Numeral) : (n.whole ++ n.fraction).takeWhile Char.isDigit = n.whole := by
  have hfraction : n.fraction.takeWhile Char.isDigit = [] := by
    unfold fraction
    split
    · rfl
    · rfl
  rw [List.takeWhile_append_of_pos n.isDigit_whole, hfraction, List.append_nil]

theorem whole_append_ne (n : Numeral) (r s : List Char) : n.whole ++ r ≠ '-' :: s := by
  intro h
  cases hwhole : n.whole with
  | nil => exact n.whole_ne_nil hwhole
  | cons c cs =>
    have hc := n.isDigit_whole c (by simp [hwhole])
    rw [hwhole] at h
    rw [(List.cons.inj h).1] at hc
    exact absurd hc (by decide)

theorem places_eq_of_fraction_eq {n m : Numeral} (h : n.fraction = m.fraction) : n.places = m.places := by
  unfold fraction at h
  split at h <;> split at h <;> simp_all

theorem text_injective : Function.Injective text := by
  intro n m h
  have hchars := String.ofList_injective h
  have hrest : n.negative = m.negative ∧ n.whole ++ n.fraction = m.whole ++ m.fraction := by
    cases hn : n.negative <;> cases hm : m.negative <;> rw [hn, hm] at hchars
    · exact ⟨rfl, hchars⟩
    · exact absurd hchars (n.whole_append_ne _ _)
    · exact absurd hchars.symm (m.whole_append_ne _ _)
    · exact ⟨rfl, List.append_cancel_left hchars⟩
  have hwhole : n.whole = m.whole := by
    rw [← n.takeWhile_whole_append, hrest.2, m.takeWhile_whole_append]
  have hfraction : n.fraction = m.fraction := by
    have := hrest.2
    rw [hwhole] at this
    exact List.append_cancel_left this
  exact Numeral.ext hrest.1 hwhole (places_eq_of_fraction_eq hfraction)

theorem toList_text_ne_nil (n : Numeral) : n.text.toList ≠ [] := by
  unfold text
  simp [n.whole_ne_nil]

theorem mem_toList_text {n : Numeral} {c : Char} (hc : c ∈ n.text.toList) : c.isDigit = true ∨ c = '-' ∨ c = '.' := by
  unfold text fraction at hc
  rw [String.toList_ofList, List.mem_append, List.mem_append] at hc
  rcases hc with hc | hc | hc
  · split at hc <;> simp_all
  · exact Or.inl (n.isDigit_whole c hc)
  · split at hc
    · cases hc
    · rcases List.mem_cons.mp hc with rfl | hc
      · exact Or.inr (Or.inr rfl)
      · exact Or.inl (n.isDigit_places c hc)

/-! ## Significant digits -/

theorem exists_eq_replicate_append_dropWhile (l : List Char) :
    ∃ k, l = List.replicate k '0' ++ l.dropWhile (· == '0') := by
  refine ⟨(l.takeWhile (· == '0')).length, ?_⟩
  have hzeros : l.takeWhile (· == '0') = List.replicate (l.takeWhile (· == '0')).length '0' :=
    List.eq_replicate_of_mem fun c hc => by simpa using List.mem_takeWhile_imp hc
  rw [← hzeros, List.takeWhile_append_dropWhile]

theorem exists_eq_trimZeros (l : List Char) :
    ∃ j k, l = List.replicate j '0' ++ trimZeros l ++ List.replicate k '0' := by
  obtain ⟨j, hj⟩ := exists_eq_replicate_append_dropWhile l
  obtain ⟨k, hk⟩ := exists_eq_replicate_append_dropWhile (l.dropWhile (· == '0')).reverse
  refine ⟨j, k, ?_⟩
  have hback : l.dropWhile (· == '0') = trimZeros l ++ List.replicate k '0' := by
    rw [trimZeros, ← List.reverse_replicate, ← List.reverse_append, ← hk, List.reverse_reverse]
  rw [List.append_assoc, ← hback, ← hj]

theorem length_trimZeros_le (j k : Nat) (l : List Char) :
    (trimZeros (List.replicate j '0' ++ l ++ List.replicate k '0')).length ≤ l.length := by
  have hzeros (k : Nat) : ∀ c ∈ List.replicate k '0', (c == '0') = true := by
    intro c hc
    rw [(List.mem_replicate.mp hc).2]
    rfl
  unfold trimZeros
  rw [List.append_assoc, List.dropWhile_append_of_pos (hzeros j), List.dropWhile_append, List.length_reverse]
  split
  · rw [List.dropWhile_eq_nil_iff.mpr (hzeros k)]
    simp
  · rw [List.reverse_append, List.reverse_replicate, List.dropWhile_append_of_pos (hzeros k)]
    calc ((l.dropWhile (· == '0')).reverse.dropWhile (· == '0')).length
        ≤ (l.dropWhile (· == '0')).reverse.length := List.length_dropWhile_le _ _
      _ ≤ l.length := by
        rw [List.length_reverse]
        exact List.length_dropWhile_le _ _

theorem toNat_le_of_isDigit {c : Char} (h : c.isDigit = true) : c.toNat ≤ 57 := by
  unfold Char.isDigit at h
  simp only [Bool.and_eq_true, decide_eq_true_eq] at h
  exact h.2

theorem ofDigitChars_lt {l : List Char} (h : ∀ c ∈ l, c.isDigit = true) :
    Nat.ofDigitChars 10 l 0 < 10 ^ l.length := by
  induction l with
  | nil => simp
  | cons c cs ih =>
    obtain ⟨hc, hcs⟩ := List.forall_mem_cons.mp h
    have hdigit : c.toNat - '0'.toNat ≤ 9 := by
      have := toNat_le_of_isDigit hc
      have : '0'.toNat = 48 := rfl
      omega
    calc Nat.ofDigitChars 10 (c :: cs) 0
        = 10 ^ cs.length * (c.toNat - '0'.toNat) + Nat.ofDigitChars 10 cs 0 := by
          rw [Nat.ofDigitChars_cons, Nat.ofDigitChars_eq_ofDigitChars_zero, Nat.mul_zero, Nat.zero_add]
      _ < 10 ^ cs.length * 9 + 10 ^ cs.length :=
          Nat.add_lt_add_of_le_of_lt (Nat.mul_le_mul_left _ hdigit) (ih hcs)
      _ = 10 ^ (c :: cs).length := by
          rw [List.length_cons, pow_succ]
          ring

theorem ofDigitChars_padded (j k : Nat) (l : List Char) :
    Nat.ofDigitChars 10 (List.replicate j '0' ++ l ++ List.replicate k '0') 0 = 10 ^ k * Nat.ofDigitChars 10 l 0 := by
  rw [Nat.ofDigitChars_append, Nat.ofDigitChars_append, Nat.ofDigitChars_replicate_zero,
    Nat.ofDigitChars_replicate_zero, Nat.mul_zero]

theorem isDigit_digits (n : Numeral) : ∀ c ∈ n.digits, c.isDigit = true :=
  List.forall_mem_append.mpr ⟨n.isDigit_whole, n.isDigit_places⟩

/-- A numeral stands for a coefficient of its significant digits and a power of ten. -/
theorem exists_magnitude_eq (n : Numeral) :
    ∃ (c : Nat) (t : ℤ), c < 10 ^ n.significantDigits ∧ n.magnitude = c * 10 ^ t := by
  obtain ⟨j, k, hdigits⟩ := exists_eq_trimZeros n.digits
  have hvalue : Nat.ofDigitChars 10 n.digits 0 = 10 ^ k * Nat.ofDigitChars 10 (trimZeros n.digits) 0 := by
    conv_lhs => rw [hdigits, ofDigitChars_padded]
  refine ⟨Nat.ofDigitChars 10 (trimZeros n.digits) 0, k - n.places.length, ofDigitChars_lt fun c hc => ?_, ?_⟩
  · apply n.isDigit_digits c
    rw [hdigits]
    simp [hc]
  · unfold magnitude
    rw [hvalue, zpow_sub₀ (by norm_num), zpow_natCast, zpow_natCast]
    push_cast
    ring

/-! ## Decimals as numerals -/

/-- The numeral with the given digits, the last `places` of them after the point. -/
def ofDigits (negative : Bool) (digits : List Char) (places : Nat) (hplaces : places < digits.length)
    (hdigits : ∀ c ∈ digits, c.isDigit = true) : Numeral where
  negative := negative
  whole := digits.take (digits.length - places)
  places := digits.drop (digits.length - places)
  whole_ne_nil := by
    rw [ne_eq, List.take_eq_nil_iff, not_or]
    exact ⟨by omega, List.ne_nil_of_length_pos (by omega)⟩
  isDigit_whole := fun c hc => hdigits c (List.mem_of_mem_take hc)
  isDigit_places := fun c hc => hdigits c (List.mem_of_mem_drop hc)

end Numeral

namespace Decimal

/-- How many digits of a decimal stand after the point. -/
def places (d : Decimal) : Nat :=
  (-d.exponent).toNat

/-- The digits of the coefficient with all zeros that are written around them. -/
def paddedDigits (d : Decimal) : List Char :=
  List.replicate (d.places + 1 - (Nat.toDigits 10 d.coefficient).length) '0' ++ Nat.toDigits 10 d.coefficient ++
    List.replicate d.exponent.toNat '0'

theorem places_lt_length (d : Decimal) : d.places < d.paddedDigits.length := by
  unfold paddedDigits
  simp only [List.length_append, List.length_replicate]
  omega

theorem isDigit_paddedDigits (d : Decimal) : ∀ c ∈ d.paddedDigits, c.isDigit = true := by
  intro c hc
  unfold paddedDigits at hc
  simp only [List.mem_append, List.mem_replicate] at hc
  rcases hc with (⟨-, rfl⟩ | hc) | ⟨-, rfl⟩
  · rfl
  · exact Nat.isDigit_of_mem_toDigits (by decide) (by decide) hc
  · rfl

/-- A decimal in plain notation. -/
def numeral (d : Decimal) (negative : Bool) : Numeral :=
  .ofDigits negative d.paddedDigits d.places d.places_lt_length d.isDigit_paddedDigits

theorem digits_numeral (d : Decimal) (negative : Bool) : (d.numeral negative).digits = d.paddedDigits :=
  List.take_append_drop _ _

theorem length_places_numeral (d : Decimal) (negative : Bool) : (d.numeral negative).places.length = d.places := by
  have := d.places_lt_length
  unfold numeral Numeral.ofDigits
  rw [List.length_drop]
  omega

theorem magnitude_numeral (d : Decimal) (negative : Bool) : (d.numeral negative).magnitude = d.value := by
  have hexponent : d.exponent = d.exponent.toNat - d.places := by
    unfold places
    omega
  have hpow : (10 : ℚ) ^ d.exponent = 10 ^ d.exponent.toNat / 10 ^ d.places := by
    conv_lhs => rw [hexponent, zpow_sub₀ (by norm_num), zpow_natCast, zpow_natCast]
  unfold Numeral.magnitude
  rw [digits_numeral, length_places_numeral, paddedDigits, Numeral.ofDigitChars_padded, Nat.ofDigitChars_ten_toDigits,
    value, hpow]
  push_cast
  ring

theorem significantDigits_numeral_le (d : Decimal) (negative : Bool) :
    (d.numeral negative).significantDigits ≤ (Nat.toDigits 10 d.coefficient).length := by
  unfold Numeral.significantDigits
  rw [digits_numeral]
  exact Numeral.length_trimZeros_le _ _ _

theorem whole_append_fraction_numeral (d : Decimal) (negative : Bool) :
    (d.numeral negative).whole ++ (d.numeral negative).fraction = d.text.toList := by
  have hpos := Nat.length_toDigits_pos (b := 10) (n := d.coefficient)
  have hlen := d.length_places_numeral negative
  unfold text
  rw [String.toList_ofList]
  by_cases hexponent : 0 ≤ d.exponent
  · have hplaces : d.places = 0 := by
      unfold places
      omega
    have hpadded : d.paddedDigits = Nat.toDigits 10 d.coefficient ++ List.replicate d.exponent.toNat '0' := by
      unfold paddedDigits
      rw [hplaces, Nat.sub_eq_zero_of_le hpos]
      rfl
    rw [if_pos hexponent, ← hpadded, ← d.digits_numeral negative]
    have hnil : (d.numeral negative).places = [] := List.eq_nil_of_length_eq_zero (hlen.trans hplaces)
    unfold Numeral.digits Numeral.fraction
    rw [if_pos hnil, hnil]
  · have hpadded : d.paddedDigits =
        List.replicate (d.places + 1 - (Nat.toDigits 10 d.coefficient).length) '0' ++
          Nat.toDigits 10 d.coefficient := by
      unfold paddedDigits
      rw [Int.toNat_of_nonpos (by omega), List.replicate_zero, List.append_nil]
    have hne : (d.numeral negative).places ≠ [] := by
      intro hnil
      rw [hnil, places] at hlen
      simp at hlen
      omega
    unfold Numeral.fraction
    rw [if_neg hexponent, if_neg hne, withPoint, ← places, ← hpadded]
    rfl

theorem text_numeral (d : Decimal) (negative : Bool) :
    (d.numeral negative).text = (if negative then "-" else "") ++ d.text := by
  unfold Numeral.text
  rw [whole_append_fraction_numeral, String.ofList_append, String.ofList_toList]
  cases negative <;> rfl

end Decimal

end StyleScope
