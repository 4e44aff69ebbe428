import StyleScope.Proofs.Text.FinalSigma

/-!
# Word ends by position

Lower-casing finds the end of a word by a scan from the sigma outwards, which looks through ignorable
characters and lets the first other one decide. The same is said here without a scan: some position
before the sigma holds a cased character, no position after it does, and what lies between is
ignorable.
-/

namespace StyleScope.Text

/-- A cased character at position `i`. One that is ignorable as well does not count. -/
def CasedAt (cs : List Char) (i : Nat) : Prop :=
  ∃ c, cs[i]? = some c ∧ isCased c = true ∧ isCaseIgnorable c = false

def IgnorableAt (cs : List Char) (i : Nat) : Prop :=
  ∀ c, cs[i]? = some c → isCaseIgnorable c = true

/-- A capital sigma at position `i`, with a cased character before it and none after it but for
ignorable ones in between. -/
structure IsFinalSigma (cs : List Char) (i : Nat) : Prop where
  sigma : cs[i]? = some 'Σ'
  preceded : ∃ j, j < i ∧ CasedAt cs j ∧ ∀ k, j < k → k < i → IgnorableAt cs k
  not_followed : ¬ ∃ j, i < j ∧ CasedAt cs j ∧ ∀ k, i < k → k < j → IgnorableAt cs k

theorem CasedAt.lt_length {cs : List Char} {i : Nat} (h : CasedAt cs i) : i < cs.length := by
  obtain ⟨c, hc, -⟩ := h
  exact (List.getElem?_eq_some_iff.mp hc).1

theorem casedAt_drop_iff {cs : List Char} {i n : Nat} : CasedAt (cs.drop i) n ↔ CasedAt cs (i + n) := by
  simp only [CasedAt, List.getElem?_drop]

theorem ignorableAt_drop_iff {cs : List Char} {i n : Nat} : IgnorableAt (cs.drop i) n ↔ IgnorableAt cs (i + n) := by
  simp only [IgnorableAt, List.getElem?_drop]

section
variable {cs : List Char} {i n : Nat} (hi : i ≤ cs.length) (hn : n < i)
include hi hn

theorem getElem?_reverse_take : (cs.take i).reverse[n]? = cs[i - 1 - n]? := by
  have hlength : (cs.take i).length = i := List.length_take_of_le hi
  rw [List.getElem?_reverse (by omega), hlength, List.getElem?_take_of_lt (by omega)]

theorem casedAt_reverse_take_iff : CasedAt (cs.take i).reverse n ↔ CasedAt cs (i - 1 - n) := by
  simp only [CasedAt, getElem?_reverse_take hi hn]

theorem ignorableAt_reverse_take_iff : IgnorableAt (cs.take i).reverse n ↔ IgnorableAt cs (i - 1 - n) := by
  simp only [IgnorableAt, getElem?_reverse_take hi hn]

end

/-! ## The scan -/

theorem meetsCased_cons (c : Char) (cs : List Char) :
    meetsCased (c :: cs) = if isCaseIgnorable c = true then meetsCased cs else isCased c := by
  unfold meetsCased
  rw [List.dropWhile_cons]
  by_cases hc : isCaseIgnorable c = true
  · simp [hc]
  · simp [hc]

theorem meetsCased_iff (cs : List Char) :
    meetsCased cs = true ↔ ∃ n, CasedAt cs n ∧ ∀ m, m < n → IgnorableAt cs m := by
  induction cs with
  | nil => simp [meetsCased, CasedAt]
  | cons c cs ih =>
    have hhead : CasedAt (c :: cs) 0 ↔ isCased c = true ∧ isCaseIgnorable c = false := by simp [CasedAt]
    have hskip : IgnorableAt (c :: cs) 0 ↔ isCaseIgnorable c = true := by simp [IgnorableAt]
    rw [meetsCased_cons]
    by_cases hc : isCaseIgnorable c = true
    · rw [if_pos hc, ih]
      constructor
      · intro ⟨n, hn, hbefore⟩
        refine ⟨n + 1, hn, fun m hm => ?_⟩
        cases m with
        | zero => exact hskip.mpr hc
        | succ m => exact hbefore m (by omega)
      · intro ⟨n, hn, hbefore⟩
        cases n with
        | zero => simp [hhead, hc] at hn
        | succ n => exact ⟨n, hn, fun m hm => hbefore (m + 1) (by omega)⟩
    · -- the head is not looked through, so it is the only place where the scan can stop
      rw [if_neg hc]
      constructor
      · intro hcased
        exact ⟨0, hhead.mpr ⟨hcased, by simpa using hc⟩, by simp⟩
      · intro ⟨n, hn, hbefore⟩
        cases n with
        | zero => exact (hhead.mp hn).1
        | succ n => exact absurd (hskip.mp (hbefore 0 (by omega))) hc

theorem meetsCased_drop_iff (cs : List Char) (i : Nat) : meetsCased (cs.drop (i + 1)) = true ↔
    ∃ j, i < j ∧ CasedAt cs j ∧ ∀ k, i < k → k < j → IgnorableAt cs k := by
  rw [meetsCased_iff]
  constructor
  · intro ⟨n, hn, hbefore⟩
    refine ⟨i + 1 + n, by omega, casedAt_drop_iff.mp hn, fun k hik hkj => ?_⟩
    obtain ⟨m, rfl⟩ : ∃ m, k = i + 1 + m := ⟨k - (i + 1), by omega⟩
    exact ignorableAt_drop_iff.mp (hbefore m (by omega))
  · intro ⟨j, hij, hj, hbetween⟩
    obtain ⟨n, rfl⟩ : ∃ n, j = i + 1 + n := ⟨j - (i + 1), by omega⟩
    refine ⟨n, casedAt_drop_iff.mpr hj, fun m hm => ?_⟩
    exact ignorableAt_drop_iff.mpr (hbetween (i + 1 + m) (by omega) (by omega))

theorem meetsCased_reverse_take_iff {cs : List Char} {i : Nat} (hi : i ≤ cs.length) :
    meetsCased (cs.take i).reverse = true ↔
      ∃ j, j < i ∧ CasedAt cs j ∧ ∀ k, j < k → k < i → IgnorableAt cs k := by
  rw [meetsCased_iff]
  constructor
  · intro ⟨n, hn, hbefore⟩
    have hni : n < i := by simpa [hi] using hn.lt_length
    refine ⟨i - 1 - n, by omega, (casedAt_reverse_take_iff hi hni).mp hn, fun k hjk hki => ?_⟩
    obtain ⟨m, hm, rfl⟩ : ∃ m, m < n ∧ k = i - 1 - m := ⟨i - 1 - k, by omega, by omega⟩
    exact (ignorableAt_reverse_take_iff hi (by omega)).mp (hbefore m hm)
  · intro ⟨j, hji, hj, hbetween⟩
    obtain ⟨n, hn, rfl⟩ : ∃ n, n < i ∧ j = i - 1 - n := ⟨i - 1 - j, by omega, by omega⟩
    refine ⟨n, (casedAt_reverse_take_iff hi hn).mpr hj, fun m hm => ?_⟩
    exact (ignorableAt_reverse_take_iff hi (by omega)).mpr (hbetween (i - 1 - m) (by omega) (by omega))

theorem finalSigmaFrom_nil_iff {cs : List Char} {i : Nat} : FinalSigmaFrom [] cs i ↔ IsFinalSigma cs i := by
  by_cases hsigma : cs[i]? = some 'Σ'
  · have hi : i ≤ cs.length := Nat.le_of_lt (List.getElem?_eq_some_iff.mp hsigma).1
    unfold FinalSigmaFrom endsWord
    rw [List.append_nil, Bool.and_eq_true, meetsCased_reverse_take_iff hi, Bool.not_eq_true',
      ← Bool.not_eq_true, meetsCased_drop_iff]
    constructor
    · intro h
      exact ⟨hsigma, h.2.1, h.2.2⟩
    · intro h
      exact ⟨hsigma, h.preceded, h.not_followed⟩
  · exact ⟨fun h => absurd h.1 hsigma, fun h => absurd h.sigma hsigma⟩

end StyleScope.Text
