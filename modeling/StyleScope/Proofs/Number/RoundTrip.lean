import StyleScope.Proofs.Number.Shortest
import StyleScope.Value.Text

/-!
# The text of a number reads back

A finite number is written as a numeral. The numeral rounds to the number it was made from and to no other,
its sign included, and no numeral with fewer significant digits rounds to it. So the text of a number
that is not a NaN tells all of its bits.
-/

namespace StyleScope

namespace Binary64

/-! ## Texts of finite and infinite numbers -/

theorem isFinite_or_isInfinite {x : Binary64} (hx : x.isNaN = false) : x.IsFinite ∨ x.isInfinite = true := by
  unfold isNaN at hx
  unfold IsFinite isInfinite
  by_cases hexp : x.exponent = 2047
  · simp_all
  · exact Or.inl hexp

theorem text_of_isFinite {x : Binary64} (hx : x.IsFinite) : x.text = (x.decimal.numeral x.isNegative).text := by
  have hnan : x.isNaN = false := by simp [isNaN, beq_eq_false_iff_ne.mpr hx]
  have hinf : x.isInfinite = false := by simp [isInfinite, beq_eq_false_iff_ne.mpr hx]
  rw [Decimal.text_numeral, text, hnan, hinf]
  simp

theorem rank_of_isInfinite {x : Binary64} (hx : x.isInfinite = true) : x.rank = 2047 * 2 ^ 52 := by
  unfold isInfinite at hx
  rw [exponent_eq, fraction_eq, Bool.and_eq_true, beq_iff_eq, beq_iff_eq] at hx
  omega

theorem text_of_isInfinite {x : Binary64} (hx : x.isInfinite = true) :
    x.text = if x.isNegative then "-inf" else "inf" := by
  have hnan : x.isNaN = false := by
    unfold isInfinite at hx
    unfold isNaN
    simp_all
  unfold text
  rw [hnan, hx]
  cases x.isNegative <;> rfl

/-- The words for numbers that are not finite. -/
def nonFiniteWords : List String :=
  ["NaN", "inf", "-inf"]

/-- The characters in texts of numbers that are not digits. -/
def nonDigits : List Char :=
  ['-', '.', 'N', 'a', 'i', 'n', 'f']

theorem text_cases (x : Binary64) : (∃ n : Numeral, x.text = n.text) ∨ x.text ∈ nonFiniteWords := by
  by_cases hnan : x.isNaN = true
  · right
    rw [text, if_pos hnan]
    simp [nonFiniteWords]
  rcases isFinite_or_isInfinite (Bool.not_eq_true _ ▸ hnan) with hfinite | hinf
  · exact Or.inl ⟨_, text_of_isFinite hfinite⟩
  · right
    rw [text_of_isInfinite hinf]
    split <;> simp [nonFiniteWords]

theorem toList_text_ne_nil (x : Binary64) : x.text.toList ≠ [] := by
  have hwords : ∀ s ∈ nonFiniteWords, s.toList ≠ [] := by simp [nonFiniteWords]
  rcases x.text_cases with ⟨n, hn⟩ | hword
  · rw [hn]
    exact n.toList_text_ne_nil
  · exact hwords _ hword

theorem mem_toList_text {x : Binary64} {c : Char} (hc : c ∈ x.text.toList) :
    c.isDigit = true ∨ c ∈ nonDigits := by
  have hwords : ∀ s ∈ nonFiniteWords, ∀ d ∈ s.toList, d ∈ nonDigits := by simp [nonFiniteWords, nonDigits]
  rcases x.text_cases with ⟨n, hn⟩ | hword
  · rw [hn] at hc
    rcases Numeral.mem_toList_text hc with hc | rfl | rfl
    · exact Or.inl hc
    · simp [nonDigits]
    · simp [nonDigits]
  · exact Or.inr (hwords _ hword c hc)

theorem not_mem_toList_text (x : Binary64) {c : Char} (hdigit : c.isDigit = false) (hother : c ∉ nonDigits) :
    c ∉ x.text.toList := by
  intro hc
  rcases mem_toList_text hc with h | h
  · rw [hdigit] at h
    cases h
  · exact hother h

theorem not_mem_of_isFinite {x : Binary64} (hx : x.IsFinite) : 'f' ∉ x.text.toList := by
  rw [text_of_isFinite hx]
  intro hf
  rcases Numeral.mem_toList_text hf with h | h | h <;> exact absurd h (by decide)

theorem mem_of_isInfinite {x : Binary64} (hx : x.isInfinite = true) : 'f' ∈ x.text.toList := by
  rw [text_of_isInfinite hx]
  split <;> decide

/-! ## Reading back -/

theorem roundsTo_numeral_iff {x : Binary64} (hx : x.IsFinite) {y : Binary64} :
    RoundsTo x.isNegative (x.decimal.numeral x.isNegative).magnitude y ↔ y = x := by
  rw [Decimal.magnitude_numeral]
  constructor
  · intro h
    exact h.unique (roundsTo_decimal hx)
  · rintro rfl
    exact roundsTo_decimal hx

theorem significantDigits_numeral_le {x : Binary64} (hx : x.IsFinite) (hzero : x.magnitude ≠ 0) {m : Numeral}
    (hm : RoundsTo m.negative m.magnitude x) :
    (x.decimal.numeral x.isNegative).significantDigits ≤ m.significantDigits := by
  have hsignificand : x.significand ≠ 0 := by
    intro h
    simp [magnitude, h] at hzero
  obtain ⟨c, t, hc, hvalue⟩ := m.exists_magnitude_eq
  rw [hvalue] at hm
  have hpos : 0 < m.significantDigits := by
    by_contra hnot
    obtain rfl : c = 0 := by simpa [Nat.eq_zero_of_not_pos hnot] using hc
    rw [Nat.cast_zero, zero_mul] at hm
    exact hzero hm.magnitude_eq_zero
  refine (x.decimal.significantDigits_numeral_le _).trans ?_
  exact (Nat.length_toDigits_le_iff (by decide) hpos).mpr (coefficient_decimal_lt hx hsignificand hc hm)

theorem eq_of_text_eq_of_isFinite {x y : Binary64} (hx : x.IsFinite) (hy : y.IsFinite) (h : x.text = y.text) :
    x = y := by
  rw [text_of_isFinite hx, text_of_isFinite hy] at h
  have hnumeral := Numeral.text_injective h
  have hsign : x.isNegative = y.isNegative := congrArg Numeral.negative hnumeral
  have hround := (roundsTo_numeral_iff hx).mpr rfl
  rw [hnumeral, hsign] at hround
  exact (roundsTo_numeral_iff hy).mp hround

theorem eq_of_text_eq_of_isInfinite {x y : Binary64} (hx : x.isInfinite = true) (hy : y.isInfinite = true)
    (h : x.text = y.text) : x = y := by
  rw [text_of_isInfinite hx, text_of_isInfinite hy] at h
  refine eq_of_rank_eq ?_ ((rank_of_isInfinite hx).trans (rank_of_isInfinite hy).symm)
  cases hxn : x.isNegative <;> cases hyn : y.isNegative <;> simp [hxn, hyn] at h ⊢

theorem eq_of_text_eq {x y : Binary64} (hx : x.isNaN = false) (hy : y.isNaN = false) (h : x.text = y.text) :
    x = y := by
  rcases isFinite_or_isInfinite hx with hx | hx <;> rcases isFinite_or_isInfinite hy with hy | hy
  · exact eq_of_text_eq_of_isFinite hx hy h
  · exact absurd (h ▸ mem_of_isInfinite hy) (not_mem_of_isFinite hx)
  · exact absurd (h ▸ mem_of_isInfinite hx) (not_mem_of_isFinite hy)
  · exact eq_of_text_eq_of_isInfinite hx hy h

end Binary64

namespace Value

open Binary64 (RoundsTo)

/-- **The text of a number determines it.** The text of a finite number is a numeral, which rounds to that
number alone, and no numeral with fewer significant digits rounds to it unless the number is zero. Numbers
other than NaNs have equal texts exactly if they are equal. -/
theorem number_text_reads_back_shortest :
    (∀ x : Binary64, x.IsFinite → ∃ n : Numeral, (∀ m : Numeral, (number x).text = m.text ↔ m = n) ∧
      (∀ y : Binary64, RoundsTo n.negative n.magnitude y ↔ y = x) ∧
      (x.magnitude ≠ 0 → ∀ m : Numeral, RoundsTo m.negative m.magnitude x →
        n.significantDigits ≤ m.significantDigits)) ∧
    ∀ x y : Binary64, x.isNaN = false → y.isNaN = false →
      ((number x).text = (number y).text ↔ (number x == number y) = true) := by
  refine ⟨fun x hx => ⟨x.decimal.numeral x.isNegative, fun m => ?_, fun y => Binary64.roundsTo_numeral_iff hx,
    fun hzero m => Binary64.significantDigits_numeral_le hx hzero⟩, fun x y hx hy => ?_⟩
  · simp only [text]
    rw [Binary64.text_of_isFinite hx, Numeral.text_injective.eq_iff]
    exact eq_comm
  · simp only [text]
    rw [beq_iff_eq, number.injEq]
    exact ⟨Binary64.eq_of_text_eq hx hy, congrArg Binary64.text⟩

/-- At a power of two, where the neighbour below is nearer than the one above. -/
theorem number_text_reads_back_shortest_power_of_two :
    let x : Binary64 := ⟨0x0020000000000000⟩
    let y : Binary64 := ⟨0x001fffffffffffff⟩
    x.IsFinite ∧ y.IsFinite ∧ x.magnitude ≠ 0 ∧ (number x).text ≠ (number y).text ∧
      ∃ n : Numeral, (number x).text = n.text ∧ RoundsTo n.negative n.magnitude x ∧
        ¬RoundsTo n.negative n.magnitude y ∧
        ∀ m : Numeral, RoundsTo m.negative m.magnitude x → n.significantDigits ≤ m.significantDigits := by
  intro x y
  have hx : x.IsFinite := by decide
  have hxy : y ≠ x := by decide
  have hzero : x.magnitude ≠ 0 := mul_ne_zero (Nat.cast_ne_zero.mpr (by decide)) (zpow_ne_zero _ two_ne_zero)
  obtain ⟨n, htext, hround, hshort⟩ := number_text_reads_back_shortest.1 x hx
  refine ⟨hx, by decide, hzero, fun h => hxy ?_, n, (htext n).mpr rfl, (hround x).mpr rfl,
    fun h => hxy ((hround y).mp h), hshort hzero⟩
  have hsame := (number_text_reads_back_shortest.2 x y (by decide) (by decide)).mp h
  exact (number.inj (beq_iff_eq.mp hsame)).symm

end Value

end StyleScope
