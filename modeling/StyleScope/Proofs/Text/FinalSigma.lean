import Mathlib.Data.List.Forall2
import StyleScope.Proofs.Text.CaseTable

/-!
# Final sigma and letter case

Two texts that differ only in letter case meet cased characters at the same places, so a sigma ends a
word in one of them exactly if it does in the other. Their lower-case forms can therefore differ only
at a sigma that is a capital in one text alone and ends a word: there the capital becomes a final
sigma and the small letter stays.
-/

namespace StyleScope.Text

/-- Characters with the same small form: the same letter but for its case. -/
def SameLetter (c d : Char) : Prop :=
  lowerChar c = lowerChar d

instance : DecidableRel SameLetter :=
  fun c d => inferInstanceAs (Decidable (lowerChar c = lowerChar d))

/-- A capital sigma at position `i` that ends a word, where `before` stands in front of the text. -/
def FinalSigmaFrom (before cs : List Char) (i : Nat) : Prop :=
  cs[i]? = some 'Σ' ∧ endsWord ((cs.take i).reverse ++ before) (cs.drop (i + 1)) = true

/-- Just one of the texts has a capital sigma at position `i`, and there it ends a word. -/
def SigmaClashFrom (before before' cs ds : List Char) (i : Nat) : Prop :=
  (FinalSigmaFrom before cs i ∧ ds[i]? ≠ some 'Σ') ∨ (FinalSigmaFrom before' ds i ∧ cs[i]? ≠ some 'Σ')

/-! ## Letters -/

theorem SameLetter.eq_or_smallLetter_eq {c d : Char} (h : SameLetter c d) :
    c = d ∨ smallLetter c = smallLetter d := by
  unfold SameLetter lowerChar at h
  split at h <;> split at h
  · rename_i hc hd
    exact Or.inl (hc.trans hd.symm)
  · simp at h
  · simp at h
  · exact Or.inr (List.singleton_inj.mp h)

theorem SameLetter.isCased_eq {c d : Char} (h : SameLetter c d) : isCased c = isCased d := by
  rcases h.eq_or_smallLetter_eq with rfl | hs
  · rfl
  · rw [← isCased_smallLetter c, hs, isCased_smallLetter]

theorem SameLetter.isCaseIgnorable_eq {c d : Char} (h : SameLetter c d) :
    isCaseIgnorable c = isCaseIgnorable d := by
  rcases h.eq_or_smallLetter_eq with rfl | hs
  · rfl
  · rw [← isCaseIgnorable_smallLetter c, hs, isCaseIgnorable_smallLetter]

theorem lowerChar_sigma : lowerChar 'Σ' = ['σ'] := by
  decide +kernel

/-! ## Word ends -/

theorem meetsCased_congr {cs ds : List Char} (h : List.Forall₂ SameLetter cs ds) :
    meetsCased cs = meetsCased ds := by
  unfold meetsCased
  induction h with
  | nil => rfl
  | @cons c d cs ds hcd _ ih =>
    rw [List.dropWhile_cons, List.dropWhile_cons, ← hcd.isCaseIgnorable_eq]
    by_cases hc : isCaseIgnorable c = true
    · rw [if_pos hc, if_pos hc, ih]
    · rw [if_neg hc, if_neg hc]
      simp [hcd.isCased_eq]

theorem endsWord_congr {before before' after after' : List Char} (hb : List.Forall₂ SameLetter before before')
    (ha : List.Forall₂ SameLetter after after') : endsWord before after = endsWord before' after' := by
  unfold endsWord
  rw [meetsCased_congr hb, meetsCased_congr ha]

/-! ## Lower-case forms -/

/-- The small form of a character in its place. -/
def lowerAt (before : List Char) (c : Char) (after : List Char) : List Char :=
  if c = 'Σ' then [if endsWord before after then 'ς' else 'σ'] else lowerChar c

theorem lowerFrom_cons (before : List Char) (c : Char) (cs : List Char) :
    lowerFrom before (c :: cs) = lowerAt before c cs ++ lowerFrom (c :: before) cs :=
  rfl

theorem length_lowerAt (before : List Char) (c : Char) (after : List Char) :
    (lowerAt before c after).length = (lowerChar c).length := by
  unfold lowerAt
  split
  · rename_i hc
    rw [hc, lowerChar_sigma]
    rfl
  · rfl

theorem lowerAt_sigma_eq_iff {before after before' after' : List Char} {d : Char} (h : SameLetter 'Σ' d)
    (hd : d ≠ 'Σ') : lowerAt before 'Σ' after = lowerAt before' d after' ↔ ¬ endsWord before after = true := by
  unfold lowerAt
  rw [if_pos rfl, if_neg hd, ← h, lowerChar_sigma]
  by_cases he : endsWord before after = true
  · simp [he]
  · simp [he]

theorem sigmaClashFrom_zero_iff {before before' cs ds : List Char} {c d : Char} :
    SigmaClashFrom before before' (c :: cs) (d :: ds) 0 ↔
      (c = 'Σ' ∧ endsWord before cs = true ∧ d ≠ 'Σ') ∨ (d = 'Σ' ∧ endsWord before' ds = true ∧ c ≠ 'Σ') := by
  simp [SigmaClashFrom, FinalSigmaFrom, and_assoc]

theorem sigmaClashFrom_succ_iff {before before' cs ds : List Char} {c d : Char} {i : Nat} :
    SigmaClashFrom before before' (c :: cs) (d :: ds) (i + 1) ↔
      SigmaClashFrom (c :: before) (d :: before') cs ds i := by
  simp [SigmaClashFrom, FinalSigmaFrom, List.append_assoc]

theorem lowerAt_eq_iff {before before' after after' : List Char} {c d : Char} (hcd : SameLetter c d)
    (hb : List.Forall₂ SameLetter before before') (ha : List.Forall₂ SameLetter after after') :
    lowerAt before c after = lowerAt before' d after' ↔
      ¬ SigmaClashFrom before before' (c :: after) (d :: after') 0 := by
  have hends := endsWord_congr hb ha
  rw [sigmaClashFrom_zero_iff]
  by_cases hc : c = 'Σ' <;> by_cases hd : d = 'Σ'
  · subst hc hd
    simp [lowerAt, hends]
  · subst hc
    rw [lowerAt_sigma_eq_iff hcd hd]
    simp [hd]
  · subst hd
    rw [eq_comm, lowerAt_sigma_eq_iff hcd.symm hc]
    simp [hc]
  · simp only [lowerAt, hc, hd, if_false, false_and, or_self, not_false_eq_true, iff_true]
    exact hcd

theorem lowerFrom_eq_iff {cs ds : List Char} (h : List.Forall₂ SameLetter cs ds) :
    ∀ {before before' : List Char}, List.Forall₂ SameLetter before before' →
      (lowerFrom before cs = lowerFrom before' ds ↔ ∀ i, ¬ SigmaClashFrom before before' cs ds i) := by
  induction h with
  | nil =>
    intro before before' _
    simp [lowerFrom, SigmaClashFrom, FinalSigmaFrom]
  | @cons c d cs ds hcd hrest ih =>
    intro before before' hb
    -- the heads have the same length, so the two forms agree place by place
    have hlen : (lowerAt before c cs).length = (lowerAt before' d ds).length := by
      rw [length_lowerAt, length_lowerAt, hcd]
    have hsplit : lowerFrom before (c :: cs) = lowerFrom before' (d :: ds) ↔
        lowerAt before c cs = lowerAt before' d ds ∧
          lowerFrom (c :: before) cs = lowerFrom (d :: before') ds := by
      rw [lowerFrom_cons, lowerFrom_cons]
      constructor
      · exact fun he => List.append_inj he hlen
      · rintro ⟨h₁, h₂⟩
        rw [h₁, h₂]
    rw [hsplit, lowerAt_eq_iff hcd hb hrest, ih (.cons hcd hb),
      ← Nat.and_forall_add_one (p := fun i => ¬ SigmaClashFrom before before' (c :: cs) (d :: ds) i)]
    simp only [sigmaClashFrom_succ_iff]

end StyleScope.Text
