import StyleScope.Text.Lowercase

/-!
# What the case tables agree on

Capitals and their small letters are all cased, and none of them is case-ignorable. So a character and
its small letter count the same wherever a rule looks for cased characters. The tables are compared as
sets of code points, and a set is the number that has these bits.
-/

namespace StyleScope.Text

/-- The number whose bits are the elements. -/
def bitsOf : List Nat → Nat
  | [] => 0
  | n :: ns => bitsOf ns ||| 1 <<< n

def spanBits : List CodeSpan → Nat
  | [] => 0
  | s :: ss => spanBits ss ||| (1 <<< (s.last + 1 - s.first) - 1) <<< s.first

theorem testBit_bitsOf {n : Nat} : ∀ {ns : List Nat}, n ∈ ns → (bitsOf ns).testBit n = true
  | m :: ns, h => by
    unfold bitsOf
    rw [Nat.testBit_or, Nat.testBit_shiftLeft]
    rcases List.mem_cons.mp h with rfl | h
    · simp
    · simp [testBit_bitsOf h]

theorem testBit_spanBits (n : Nat) (ss : List CodeSpan) : (spanBits ss).testBit n = ss.any (·.covers n) := by
  induction ss with
  | nil => simp [spanBits]
  | cons s ss ih =>
    unfold spanBits
    rw [Nat.testBit_or, ih, Nat.one_shiftLeft, Nat.testBit_shiftLeft, Nat.testBit_two_pow_sub_one, List.any_cons,
      Bool.or_comm]
    congr 1
    unfold CodeSpan.covers
    rw [Bool.eq_iff_iff]
    simp only [Bool.and_eq_true, decide_eq_true_eq]
    omega

theorem not_mem_of_bitsOf_and {ns ms : List Nat} (h : bitsOf ns &&& bitsOf ms = 0) {n : Nat} (hn : n ∈ ns) :
    n ∉ ms := by
  intro hm
  have hbit := congrArg (Nat.testBit · n) h
  simp [Nat.testBit_and, testBit_bitsOf hn, testBit_bitsOf hm] at hbit

theorem any_covers_eq_true {ns : List Nat} {ss : List CodeSpan} (h : bitsOf ns &&& spanBits ss = bitsOf ns)
    {n : Nat} (hn : n ∈ ns) : ss.any (·.covers n) = true := by
  have hbit := testBit_bitsOf hn
  rw [← h, Nat.testBit_and, Bool.and_eq_true, testBit_spanBits] at hbit
  exact hbit.2

theorem any_covers_eq_false {ns : List Nat} {ss : List CodeSpan} (h : bitsOf ns &&& spanBits ss = 0)
    {n : Nat} (hn : n ∈ ns) : ss.any (·.covers n) = false := by
  have hbit := congrArg (Nat.testBit · n) h
  simpa [Nat.testBit_and, testBit_bitsOf hn, testBit_spanBits] using hbit

/-! ## Capitals and small letters -/

/-- The capitals of a run. -/
def CaseRun.capitals (r : CaseRun) : List Nat :=
  (List.range ((r.last - r.first) / r.stride + 1)).map fun i => r.first + r.stride * i

/-- Every capital with a single small letter, and all these small letters. -/
def pairedLetters : List Nat :=
  caseRuns.flatMap fun r => r.capitals ++ r.capitals.map r.lower

/-- Every capital, the dotted I included. -/
def capitalLetters : List Nat :=
  0x130 :: caseRuns.flatMap (·.capitals)

def smallLetters : List Nat :=
  caseRuns.flatMap fun r => r.capitals.map r.lower

theorem CaseRun.mem_capitals {r : CaseRun} {n : Nat} (h : r.covers n = true) : n ∈ r.capitals := by
  simp only [CaseRun.covers, Bool.and_eq_true, decide_eq_true_eq, beq_iff_eq] at h
  obtain ⟨⟨hfirst, hlast⟩, hmod⟩ := h
  have hdiv : r.stride * ((n - r.first) / r.stride) = n - r.first :=
    Nat.mul_div_cancel_left' (Nat.dvd_of_mod_eq_zero hmod)
  refine List.mem_map.mpr ⟨(n - r.first) / r.stride, List.mem_range.mpr ?_, ?_⟩
  · exact Nat.lt_succ_of_le (Nat.div_le_div_right (Nat.sub_le_sub_right hlast _))
  · rw [hdiv]
    omega

theorem pairedLetters_cased : bitsOf pairedLetters &&& spanBits casedSpans = bitsOf pairedLetters := by
  decide +kernel

theorem pairedLetters_not_ignorable : bitsOf pairedLetters &&& spanBits caseIgnorableSpans = 0 := by
  decide +kernel

theorem pairedLetters_scalar :
    bitsOf pairedLetters &&& spanBits [⟨0, 0xD7FF⟩, ⟨0xE000, 0x10FFFF⟩] = bitsOf pairedLetters := by
  decide +kernel

theorem smallLetters_not_capital : bitsOf smallLetters &&& bitsOf capitalLetters = 0 := by
  decide +kernel

theorem isValidChar_of_mem_pairedLetters {n : Nat} (h : n ∈ pairedLetters) : n.isValidChar := by
  have hspan := any_covers_eq_true pairedLetters_scalar h
  simp only [CodeSpan.covers, List.any_cons, List.any_nil, Bool.or_false, Bool.or_eq_true, Bool.and_eq_true,
    decide_eq_true_eq] at hspan
  unfold Nat.isValidChar
  omega

theorem smallLetter_of_run {c : Char} {r : CaseRun} (hr : caseRuns.find? (·.covers c.toNat) = some r) :
    c.toNat ∈ pairedLetters ∧ (smallLetter c).toNat = r.lower c.toNat ∧ r.lower c.toNat ∈ pairedLetters := by
  have hmem := List.mem_of_find?_eq_some hr
  have hcovers : r.covers c.toNat = true := by simpa using List.find?_some hr
  have hcap := CaseRun.mem_capitals hcovers
  have hlower : r.lower c.toNat ∈ pairedLetters := List.mem_flatMap.mpr
    ⟨r, hmem, List.mem_append_right _ (List.mem_map_of_mem hcap)⟩
  have hvalid := isValidChar_of_mem_pairedLetters hlower
  have hsmall : smallLetter c = Char.ofNatAux (r.lower c.toNat) hvalid := by
    unfold smallLetter
    rw [hr]
    exact dif_pos hvalid
  refine ⟨List.mem_flatMap.mpr ⟨r, hmem, List.mem_append_left _ hcap⟩, ?_, hlower⟩
  rw [hsmall]
  rfl

theorem smallLetter_of_no_run {c : Char} (hr : caseRuns.find? (·.covers c.toNat) = none) : smallLetter c = c := by
  unfold smallLetter
  rw [hr]

theorem smallLetter_eq_or (c : Char) :
    smallLetter c = c ∨ (c.toNat ∈ pairedLetters ∧ (smallLetter c).toNat ∈ pairedLetters) := by
  cases hr : caseRuns.find? (·.covers c.toNat) with
  | none => exact Or.inl (smallLetter_of_no_run hr)
  | some r =>
    obtain ⟨hc, hs, hlower⟩ := smallLetter_of_run hr
    exact Or.inr ⟨hc, hs ▸ hlower⟩

theorem smallLetter_eq_of_not_capital {c : Char} (h : c.toNat ∉ capitalLetters) : smallLetter c = c := by
  apply smallLetter_of_no_run
  rw [List.find?_eq_none]
  intro r hr hcovers
  exact h (List.mem_cons_of_mem _ (List.mem_flatMap.mpr ⟨r, hr, CaseRun.mem_capitals hcovers⟩))

theorem smallLetter_eq_or_mem_smallLetters (c : Char) :
    smallLetter c = c ∨ (smallLetter c).toNat ∈ smallLetters := by
  cases hr : caseRuns.find? (·.covers c.toNat) with
  | none => exact Or.inl (smallLetter_of_no_run hr)
  | some r =>
    refine Or.inr ?_
    have hcovers : r.covers c.toNat = true := by simpa using List.find?_some hr
    rw [(smallLetter_of_run hr).2.1]
    exact List.mem_flatMap.mpr
      ⟨r, List.mem_of_find?_eq_some hr, List.mem_map_of_mem (CaseRun.mem_capitals hcovers)⟩

theorem isCased_smallLetter (c : Char) : isCased (smallLetter c) = isCased c := by
  rcases smallLetter_eq_or c with h | ⟨hc, hs⟩
  · rw [h]
  · unfold isCased
    rw [any_covers_eq_true pairedLetters_cased hc, any_covers_eq_true pairedLetters_cased hs]

theorem isCaseIgnorable_smallLetter (c : Char) : isCaseIgnorable (smallLetter c) = isCaseIgnorable c := by
  rcases smallLetter_eq_or c with h | ⟨hc, hs⟩
  · rw [h]
  · unfold isCaseIgnorable
    rw [any_covers_eq_false pairedLetters_not_ignorable hc, any_covers_eq_false pairedLetters_not_ignorable hs]

end StyleScope.Text
