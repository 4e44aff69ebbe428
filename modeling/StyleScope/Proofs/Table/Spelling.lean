import StyleScope.Proofs.Text.WordEnd
import StyleScope.Table.Lemmas

/-!
# Spellings of a name

Names that differ only in letter case share a binding, unless a sigma that ends a word is a capital in
one of them alone. Then they are two names: a write under one is not seen under the other.
-/

namespace StyleScope

/-- The names have as many characters, and each character of one is that of the other but for its case. -/
def CaseVariant (a b : String) : Prop :=
  List.Forall₂ Text.SameLetter a.toList b.toList

/-- Just one of the names has a capital sigma at position `i`, and there it ends a word. -/
def SigmaClash (a b : String) (i : Nat) : Prop :=
  Text.SigmaClashFrom [] [] a.toList b.toList i

instance : DecidableRel CaseVariant :=
  fun a b => inferInstanceAs (Decidable (List.Forall₂ Text.SameLetter a.toList b.toList))

theorem CaseVariant.canonicalKey_eq_iff {a b : String} (h : CaseVariant a b) :
    canonicalKey a = canonicalKey b ↔ ∀ i, ¬ SigmaClash a b i := by
  unfold canonicalKey Text.lowercase
  rw [String.ofList_inj]
  exact Text.lowerFrom_eq_iff h .nil

theorem sigmaClash_iff {a b : String} {i : Nat} : SigmaClash a b i ↔
    (Text.IsFinalSigma a.toList i ∧ b.toList[i]? ≠ some 'Σ') ∨
      (Text.IsFinalSigma b.toList i ∧ a.toList[i]? ≠ some 'Σ') := by
  unfold SigmaClash Text.SigmaClashFrom
  rw [Text.finalSigmaFrom_nil_iff, Text.finalSigmaFrom_nil_iff]

theorem CaseVariant.canonicalKey_eq_of_sigmas {a b : String} (h : CaseVariant a b)
    (hsigmas : ∀ i : Nat, a.toList[i]? = some 'Σ' ↔ b.toList[i]? = some 'Σ') : canonicalKey a = canonicalKey b := by
  rw [h.canonicalKey_eq_iff]
  intro i hclash
  rcases sigmaClash_iff.mp hclash with ⟨hfinal, hb⟩ | ⟨hfinal, ha⟩
  · exact hb ((hsigmas i).mp hfinal.sigma)
  · exact ha ((hsigmas i).mpr hfinal.sigma)

namespace SymbolTable

variable {α : Type u}

section
variable [Presence α]

theorem get?_set_self (t : SymbolTable α) (name : String) {v : α} (hv : isAbsent v = false) :
    (t.set name v).get? name = some v :=
  get?_eq_some_iff.mpr ⟨by rw [slot?_set, if_pos rfl], hv⟩

theorem lookup_set_of_ne {name other : String} (h : canonicalKey name ≠ canonicalKey other)
    (t : SymbolTable α) (v : α) : (t.set name v).lookup other = t.lookup other := by
  unfold lookup
  rw [slot?_set, if_neg h]

/-- **Letter case and bindings.** A binding is shared by case variants, in every table, exactly if no
sigma clashes; else the write leaves the other name as it was. -/
theorem caseVariant_shares_binding_iff {a b : String} (h : CaseVariant a b) {v : α} (hv : isAbsent v = false) :
    ((∀ t : SymbolTable α, (t.set a v).get? b = some v ∧ (t.set a v).isDefined b = true ∧
        (t.set a v).size = (t.set b v).size) ↔ ∀ i, ¬ SigmaClash a b i) ∧
      ((∃ i, SigmaClash a b i) → ∀ t : SymbolTable α, (t.set a v).lookup b = t.lookup b) := by
  refine ⟨⟨fun hshared => ?_, fun hclash t => ?_⟩, fun hclash t => ?_⟩
  · rw [← h.canonicalKey_eq_iff]
    by_contra hne
    -- in the empty table nothing but the write itself could answer
    have hget := (hshared empty).1
    rw [get?_eq_some_iff, slot?_set, if_neg hne, slot?_empty] at hget
    cases hget.1
  · have hkey := h.canonicalKey_eq_iff.mpr hclash
    have hget : (t.set a v).get? b = some v := by
      rw [set_eq_of_canonicalKey_eq hkey]
      exact get?_set_self t b hv
    refine ⟨hget, ?_, by rw [set_eq_of_canonicalKey_eq hkey]⟩
    rw [← isSome_get?, hget]
    rfl
  · have hne : canonicalKey a ≠ canonicalKey b := by
      rw [ne_eq, h.canonicalKey_eq_iff, not_forall_not]
      exact hclash
    exact lookup_set_of_ne hne t v

theorem caseVariant_shares_binding_agreeing :
    CaseVariant "ΣΊΣΥΦΟΣ" "σίσυφοΣ" ∧ isAbsent (some 1) = false ∧
      ∀ t : SymbolTable (Option Nat), (t.set "ΣΊΣΥΦΟΣ" (some 1)).get? "σίσυφοΣ" = some (some 1) ∧
        (t.set "ΣΊΣΥΦΟΣ" (some 1)).isDefined "σίσυφοΣ" = true ∧
        (t.set "ΣΊΣΥΦΟΣ" (some 1)).size = (t.set "σίσυφοΣ" (some 1)).size := by
  have h : CaseVariant "ΣΊΣΥΦΟΣ" "σίσυφοΣ" := by decide +kernel
  have hkey : canonicalKey "ΣΊΣΥΦΟΣ" = canonicalKey "σίσυφοΣ" := by decide +kernel
  exact ⟨h, rfl, (caseVariant_shares_binding_iff h rfl).1.mpr (h.canonicalKey_eq_iff.mp hkey)⟩

/-- The capital of the first name becomes a final sigma; the small letter of the second stays. -/
theorem caseVariant_loses_binding :
    ¬ ∀ (a b : String) (t : SymbolTable Value) (v : Value), CaseVariant a b → isAbsent v = false →
      (t.set a v).get? b = some v ∧ (t.set a v).isDefined b = true ∧ (t.set a v).size = (t.set b v).size := by
  intro hshared
  have h : CaseVariant "ΑΣ" "ασ" := by decide +kernel
  have hne : canonicalKey "ΑΣ" ≠ canonicalKey "ασ" := by decide +kernel
  have hget := (hshared _ _ empty (.bool true) h rfl).1
  rw [get?_eq_some_iff, slot?_set, if_neg hne, slot?_empty] at hget
  cases hget.1

/-- **Where letter case tells names apart.** Case variants have two keys exactly if at some position one
of them alone has a capital sigma, and a final one. Variants with their sigmas at the same positions
share their binding. -/
theorem caseVariant_key_eq_iff_no_lone_final_sigma {a b : String} (h : CaseVariant a b) :
    (canonicalKey a = canonicalKey b ↔ ¬ ∃ i, (Text.IsFinalSigma a.toList i ∧ b.toList[i]? ≠ some 'Σ') ∨
      (Text.IsFinalSigma b.toList i ∧ a.toList[i]? ≠ some 'Σ')) ∧
    ((∀ i : Nat, a.toList[i]? = some 'Σ' ↔ b.toList[i]? = some 'Σ') → ∀ (t : SymbolTable α) (v : α),
      t.set a v = t.set b v ∧ t.lookup a = t.lookup b ∧ (t.set a v).slot? b = some v) := by
  refine ⟨by simp only [h.canonicalKey_eq_iff, sigmaClash_iff, not_exists], fun hsigmas t v => ?_⟩
  have hkey := h.canonicalKey_eq_of_sigmas hsigmas
  refine ⟨set_eq_of_canonicalKey_eq hkey t v, ?_, by rw [slot?_set, if_pos hkey]⟩
  unfold lookup
  rw [slot?_eq_of_canonicalKey_eq hkey]

theorem caseVariant_key_eq_iff_no_lone_final_sigma_elided :
    CaseVariant "ΟΔΌΣ'" "οδόσ'" ∧ Text.IsFinalSigma "ΟΔΌΣ'".toList 3 ∧ canonicalKey "ΟΔΌΣ'" ≠ canonicalKey "οδόσ'" ∧
      CaseVariant "ΟΔΌΣ'" "οδόΣ'" ∧ ∀ (t : SymbolTable Value) (v : Value), t.set "ΟΔΌΣ'" v = t.set "οδόΣ'" v := by
  have hsmall : CaseVariant "ΟΔΌΣ'" "οδόσ'" := by decide +kernel
  have hcapital : CaseVariant "ΟΔΌΣ'" "οδόΣ'" := by decide +kernel
  -- the apostrophe after the sigma is looked through
  have hfinal : Text.IsFinalSigma "ΟΔΌΣ'".toList 3 := Text.finalSigmaFrom_nil_iff.mp ⟨rfl, by decide +kernel⟩
  have hsigmas : ∀ i : Nat, "ΟΔΌΣ'".toList[i]? = some 'Σ' ↔ "οδόΣ'".toList[i]? = some 'Σ' := by
    intro i
    rcases i with _ | _ | _ | _ | _ | i <;> simp
  obtain ⟨hiff, -⟩ := @caseVariant_key_eq_iff_no_lone_final_sigma Value _ _ _ hsmall
  refine ⟨hsmall, hfinal, fun hkey => ?_, hcapital, fun t v => ?_⟩
  · exact hiff.mp hkey ⟨3, Or.inl ⟨hfinal, by decide⟩⟩
  · exact ((caseVariant_key_eq_iff_no_lone_final_sigma hcapital).2 hsigmas t v).1

end

end SymbolTable

end StyleScope
