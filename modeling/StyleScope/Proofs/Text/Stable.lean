import StyleScope.Proofs.Text.CaseTable

/-!
# Lower-case text is stable

No small letter is a capital of another letter, so a character that lower-casing has written is left
alone by the next pass. The rule for a sigma at the end of a word does not come into play again, for
no capital sigma is left.
-/

namespace StyleScope.Text

theorem smallLetter_smallLetter (c : Char) : smallLetter (smallLetter c) = smallLetter c := by
  rcases smallLetter_eq_or_mem_smallLetters c with h | h
  · rw [h, h]
  · exact smallLetter_eq_of_not_capital (not_mem_of_bitsOf_and smallLetters_not_capital h)

theorem smallLetter_ne_dottedI {c : Char} (hc : c ≠ 'İ') : smallLetter c ≠ 'İ' := by
  rcases smallLetter_eq_or_mem_smallLetters c with h | h
  · rwa [h]
  · intro hI
    rw [hI] at h
    exact not_mem_of_bitsOf_and smallLetters_not_capital h List.mem_cons_self

theorem lowerChar_of_mem_lowerChar {c d : Char} (h : d ∈ lowerChar c) : lowerChar d = [d] := by
  by_cases hc : c = 'İ'
  · subst hc
    have hd : d = 'i' ∨ d = '\u0307' := by simpa [lowerChar] using h
    rcases hd with rfl | rfl <;> decide +kernel
  · simp only [lowerChar, hc, if_false, List.mem_singleton] at h
    subst h
    simp only [lowerChar, smallLetter_ne_dottedI hc, if_false, smallLetter_smallLetter]

theorem lowerChar_of_mem_lowerFrom {d : Char} (cs : List Char) :
    ∀ before, d ∈ lowerFrom before cs → lowerChar d = [d] := by
  induction cs with
  | nil => intro before h; cases h
  | cons c cs ih =>
    intro before h
    rw [lowerFrom, List.mem_append] at h
    rcases h with h | h
    · split at h
      · split at h
        · rw [List.mem_singleton.mp h]; decide +kernel
        · rw [List.mem_singleton.mp h]; decide +kernel
      · exact lowerChar_of_mem_lowerChar h
    · exact ih _ h

theorem lowerFrom_eq_self {cs : List Char} (h : ∀ c ∈ cs, lowerChar c = [c]) :
    ∀ before, lowerFrom before cs = cs := by
  induction cs with
  | nil => intro before; rfl
  | cons c cs ih =>
    intro before
    rw [List.forall_mem_cons] at h
    have hc : c ≠ 'Σ' := by
      rintro rfl
      exact absurd h.1 (by decide +kernel)
    rw [lowerFrom, if_neg hc, h.1, ih h.2, List.singleton_append]

theorem lowercase_lowercase (s : String) : lowercase (lowercase s) = lowercase s := by
  unfold lowercase
  rw [String.toList_ofList, lowerFrom_eq_self fun c hc => lowerChar_of_mem_lowerFrom _ _ hc]

end StyleScope.Text
