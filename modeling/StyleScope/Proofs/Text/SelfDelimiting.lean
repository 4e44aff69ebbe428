import Mathlib.Data.List.Basic
import StyleScope.Text.Quoted

/-!
# Self-delimiting codes

In a self-delimiting code a reader knows where a code word ends, whatever comes after it. Such code words
can be written one after the other, and with an end mark that starts none of them they make up a
self-delimiting code for sequences. UTF-8 and the escapes of quoted text are such codes for characters.
-/

namespace StyleScope.Text

/-- Whatever follows a code word, it can be read in one way only. -/
def SelfDelimiting {α : Type u} {β : Type v} (code : α → List β) : Prop :=
  ∀ ⦃a b : α⦄ ⦃r s : List β⦄, code a ++ r = code b ++ s → a = b ∧ r = s

namespace SelfDelimiting

variable {α : Type u} {β : Type v} {code : α → List β}

theorem terminated (h : SelfDelimiting code) {mark : β} (hmark : ∀ a r s, code a ++ r ≠ mark :: s) :
    SelfDelimiting fun as : List α => as.flatMap code ++ [mark] := by
  intro as bs r s
  simp only [List.append_assoc, List.singleton_append]
  induction as generalizing bs with
  | nil =>
    cases bs with
    | nil => simp
    | cons b bs =>
      intro he
      rw [List.flatMap_cons, List.append_assoc] at he
      exact absurd he.symm (hmark b _ _)
  | cons a as ih =>
    intro he
    rw [List.flatMap_cons, List.append_assoc] at he
    cases bs with
    | nil => exact absurd he (hmark a _ _)
    | cons b bs =>
      rw [List.flatMap_cons, List.append_assoc] at he
      obtain ⟨hab, hrest⟩ := h he
      obtain ⟨has, hrs⟩ := ih hrest
      exact ⟨by rw [hab, has], hrs⟩

end SelfDelimiting

/-! ## UTF-8 -/

theorem selfDelimiting_utf8EncodeChar : SelfDelimiting String.utf8EncodeChar := by
  intro c d r s h
  have hbytes : (String.utf8EncodeChar c).toByteArray ++ r.toByteArray =
      (String.utf8EncodeChar d).toByteArray ++ s.toByteArray := by
    rw [← List.toByteArray_append, ← List.toByteArray_append, h]
  have hc := ByteArray.utf8DecodeChar?_utf8EncodeChar_append (c := c) (b := r.toByteArray)
  rw [hbytes, ByteArray.utf8DecodeChar?_utf8EncodeChar_append] at hc
  cases hc
  exact ⟨rfl, List.append_cancel_left h⟩

theorem utf8EncodeChar_append_ne (c : Char) (r s : List UInt8) : String.utf8EncodeChar c ++ r ≠ 0xff :: s := by
  have hfirst := UInt8.isUTF8FirstByte_getElem_zero_utf8EncodeChar (c := c)
  intro h
  cases hc : String.utf8EncodeChar c with
  | nil => exact String.utf8EncodeChar_ne_nil hc
  | cons b bs =>
    rw [hc] at h
    simp only [hc, List.getElem_cons_zero, (List.cons.inj h).1] at hfirst
    exact absurd hfirst (by decide)

/-! ## Escapes -/

theorem digitChar_inj {m n : Nat} (hm : m < 16) (hn : n < 16) (h : m.digitChar = n.digitChar) : m = n := by
  have hall : ∀ i j : Fin 16, i.val.digitChar = j.val.digitChar → i = j := by decide
  exact congrArg Fin.val (hall ⟨m, hm⟩ ⟨n, hn⟩ h)

theorem toDigits_sixteen_inj {m n : Nat} (h : Nat.toDigits 16 m = Nat.toDigits 16 n) : m = n := by
  induction m using Nat.strongRecOn generalizing n with
  | ind m ih =>
    have hlen := congrArg List.length h
    have hpos (k : Nat) : 0 < (Nat.toDigits 16 k).length := Nat.length_toDigits_pos
    by_cases hm : m < 16 <;> by_cases hn : n < 16
    · rw [Nat.toDigits_of_lt_base hm, Nat.toDigits_of_lt_base hn] at h
      exact digitChar_inj hm hn (List.singleton_inj.mp h)
    · rw [Nat.toDigits_of_lt_base hm, Nat.toDigits_of_base_le (by decide) (by omega)] at hlen
      simp only [List.length_append, List.length_singleton] at hlen
      have := hpos (n / 16)
      omega
    · rw [Nat.toDigits_of_lt_base hn, Nat.toDigits_of_base_le (by decide) (by omega)] at hlen
      simp only [List.length_append, List.length_singleton] at hlen
      have := hpos (m / 16)
      omega
    · rw [Nat.toDigits_of_base_le (n := m) (by decide) (by omega),
        Nat.toDigits_of_base_le (n := n) (by decide) (by omega)] at h
      obtain ⟨hhigh, hlow⟩ := List.append_inj' h rfl
      have hdiv := ih (m / 16) (by omega) hhigh
      have hmod := digitChar_inj (by omega) (by omega) (List.singleton_inj.mp hlow)
      omega

theorem not_mem_toDigits_sixteen {c : Char} (hc : ∀ d : Nat, d.digitChar ≠ c) (n : Nat) : c ∉ Nat.toDigits 16 n := by
  induction n using Nat.strongRecOn with
  | ind n ih =>
    by_cases hn : n < 16
    · rw [Nat.toDigits_of_lt_base hn, List.mem_singleton]
      exact (hc n).symm
    · rw [Nat.toDigits_of_base_le (by decide) (by omega), List.mem_append, List.mem_singleton, not_or]
      exact ⟨ih (n / 16) (by omega), (hc _).symm⟩

/-- The characters with an escape of two characters, each with the second of them. -/
def shortEscapes : List (Char × Char) :=
  [('\x00', '0'), ('\t', 't'), ('\r', 'r'), ('\n', 'n'), ('\\', '\\'), ('"', '"')]

theorem shortEscapes_ne_u {c e : Char} (h : (c, e) ∈ shortEscapes) : e ≠ 'u' := by
  have hall : ∀ p ∈ shortEscapes, p.2 ≠ 'u' := by decide
  exact hall _ h

/-- The three ways to write a character between quotes. -/
theorem escapeChar_cases (c : Char) :
    (∃ e, (c, e) ∈ shortEscapes ∧ escapeChar c = ['\\', e]) ∨ escapeChar c = codeEscape c ∨
      (c ≠ '\\' ∧ c ≠ '"' ∧ escapeChar c = [c]) := by
  by_cases hc : c ∈ shortEscapes.map Prod.fst
  · left
    have hall : ∀ p ∈ shortEscapes, escapeChar p.1 = ['\\', p.2] := by decide
    obtain ⟨p, hp, rfl⟩ := List.mem_map.mp hc
    exact ⟨p.2, hp, hall p hp⟩
  · right
    simp only [shortEscapes, List.map_cons, List.map_nil, List.mem_cons, List.not_mem_nil, or_false, not_or] at hc
    obtain ⟨h0, ht, hr, hn, hb, hq⟩ := hc
    unfold escapeChar
    rw [if_neg h0, if_neg ht, if_neg hr, if_neg hn, if_neg hb, if_neg hq]
    by_cases hx : (isAttaching c || isInvisible c) = true
    · exact Or.inl (if_pos hx)
    · exact Or.inr ⟨hb, hq, if_neg hx⟩

theorem codeEscape_append_inj {c d : Char} {r s : List Char} (h : codeEscape c ++ r = codeEscape d ++ s) :
    c = d ∧ r = s := by
  have hbrace := not_mem_toDigits_sixteen (c := '\x7d') fun _ => Nat.digitChar_ne _ (by decide)
  simp only [codeEscape, List.cons_append, List.append_assoc, List.nil_append, List.cons.injEq, true_and] at h
  have hlen : (Nat.toDigits 16 c.toNat).length = (Nat.toDigits 16 d.toNat).length := by
    have hfind := congrArg (List.idxOf '\x7d') h
    simpa [List.idxOf_append_of_notMem (hbrace _)] using hfind
  obtain ⟨hcd, hrest⟩ := List.append_inj h hlen
  exact ⟨Char.toNat_inj.mp (toDigits_sixteen_inj hcd), (List.cons.inj hrest).2⟩

theorem selfDelimiting_escapeChar : SelfDelimiting escapeChar := by
  intro c d r s h
  rcases escapeChar_cases c with ⟨e, he, hc⟩ | hc | ⟨hb, -, hc⟩ <;>
    rcases escapeChar_cases d with ⟨f, hf, hd⟩ | hd | ⟨hb', -, hd⟩ <;>
    rw [hc, hd] at h
  · have hinj : ∀ p ∈ shortEscapes, ∀ q ∈ shortEscapes, p.2 = q.2 → p.1 = q.1 := by decide
    simp only [List.cons_append, List.nil_append, List.cons.injEq, true_and] at h
    exact ⟨hinj _ he _ hf h.1, h.2⟩
  · exact absurd (List.cons.inj (List.cons.inj h).2).1 (shortEscapes_ne_u he)
  · exact absurd (List.cons.inj h).1.symm hb'
  · exact absurd (List.cons.inj (List.cons.inj h).2).1.symm (shortEscapes_ne_u hf)
  · exact codeEscape_append_inj h
  · exact absurd (List.cons.inj h).1.symm hb'
  · exact absurd (List.cons.inj h).1 hb
  · exact absurd (List.cons.inj h).1 hb
  · exact List.cons.inj h

theorem escapeChar_append_ne (c : Char) (r s : List Char) : escapeChar c ++ r ≠ '"' :: s := by
  rcases escapeChar_cases c with ⟨e, -, hc⟩ | hc | ⟨-, hq, hc⟩
  · simp [hc]
  · simp [hc, codeEscape]
  · simp [hc, hq]

theorem selfDelimiting_quoted : SelfDelimiting fun s : String => (quoted s).toList := by
  intro s t r r' h
  simp only [quoted, String.toList_ofList, List.cons_append, List.cons.injEq, true_and] at h
  obtain ⟨hst, hr⟩ := selfDelimiting_escapeChar.terminated escapeChar_append_ne h
  exact ⟨String.toList_injective hst, hr⟩

end StyleScope.Text
