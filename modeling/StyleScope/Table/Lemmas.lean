import StyleScope.Table.Basic

/-!
# Tables through their slots

What each operation does to the slot of a name. All questions to a table are answered by that slot.
-/

namespace StyleScope

namespace Lookup

variable {α : Type u}

theorem value?_eq_some_iff {l : Lookup α} {a : α} : l.value? = some a ↔ l = .bound a := by
  cases l <;> simp [value?]

section
variable [Presence α] {a? : Option α} {a : α}

theorem ofSlot_eq_unbound_iff : ofSlot a? = .unbound ↔ a? = none := by
  cases a? with
  | none => simp [ofSlot]
  | some b => cases h : isAbsent b <;> simp [ofSlot, h]

theorem ofSlot_eq_empty_iff : ofSlot a? = .empty ↔ ∃ b, a? = some b ∧ isAbsent b = true := by
  cases a? with
  | none => simp [ofSlot]
  | some b => cases h : isAbsent b <;> simp [ofSlot, h]

theorem ofSlot_eq_bound_iff : ofSlot a? = .bound a ↔ a? = some a ∧ isAbsent a = false := by
  cases a? with
  | none => simp [ofSlot]
  | some b => cases h : isAbsent b <;> simp [ofSlot, h] <;> rintro rfl <;> exact h

end

end Lookup

namespace SymbolTable

variable {α : Type u}

@[simp] theorem slot?_empty (name : String) : (empty : SymbolTable α).slot? name = none := by
  simp [slot?, empty]

theorem slot?_set (t : SymbolTable α) (name other : String) (a : α) :
    (t.set name a).slot? other =
      if canonicalKey name = canonicalKey other then some a else t.slot? other := by
  unfold slot? set
  rw [Std.ExtTreeMap.getElem?_insert]
  simp only [Std.compare_eq_iff_eq]

theorem contains_eq_isSome_slot? (t : SymbolTable α) (name : String) :
    t.contains name = (t.slot? name).isSome := by
  unfold contains slot?
  exact Std.ExtTreeMap.contains_eq_isSome_getElem?

theorem slot?_eq_none_iff {t : SymbolTable α} {name : String} :
    t.slot? name = none ↔ t.contains name = false := by
  rw [contains_eq_isSome_slot?, Option.isSome_eq_false_iff, Option.isNone_iff_eq_none]

theorem contains_of_slot? {t : SymbolTable α} {name : String} {a : α} (h : t.slot? name = some a) :
    t.contains name = true := by
  rw [contains_eq_isSome_slot?, h]
  rfl

/-! ## Spellings of one name -/

section
variable {m n : String} (h : canonicalKey m = canonicalKey n)
include h

theorem slot?_eq_of_canonicalKey_eq (t : SymbolTable α) : t.slot? m = t.slot? n := by
  unfold slot?
  rw [h]

theorem contains_eq_of_canonicalKey_eq (t : SymbolTable α) : t.contains m = t.contains n := by
  unfold contains
  rw [h]

theorem set_eq_of_canonicalKey_eq (t : SymbolTable α) (a : α) : t.set m a = t.set n a := by
  unfold set
  rw [h]

end

/-! ## Questions -/

section
variable [Presence α]

theorem lookup_eq_unbound_iff {t : SymbolTable α} {name : String} :
    t.lookup name = .unbound ↔ t.slot? name = none :=
  Lookup.ofSlot_eq_unbound_iff

theorem lookup_of_slot? {t : SymbolTable α} {name : String} {a : α} (h : t.slot? name = some a) :
    t.lookup name = if isAbsent a then .empty else .bound a := by
  unfold lookup
  rw [h]
  rfl

theorem get?_eq_some_iff {t : SymbolTable α} {name : String} {a : α} :
    t.get? name = some a ↔ t.slot? name = some a ∧ isAbsent a = false := by
  unfold get? lookup
  rw [Lookup.value?_eq_some_iff, Lookup.ofSlot_eq_bound_iff]

theorem isDefined_iff {t : SymbolTable α} {name : String} :
    t.isDefined name = true ↔ ∃ a, t.slot? name = some a ∧ isAbsent a = false := by
  simp [isDefined, Option.any_eq_true]

theorem isPresent_lookup (t : SymbolTable α) (name : String) :
    (t.lookup name).isPresent = t.contains name := by
  rw [contains_eq_isSome_slot?]
  unfold lookup
  cases t.slot? name with
  | none => rfl
  | some a => cases h : isAbsent a <;> simp [Lookup.ofSlot, Lookup.isPresent, h]

theorem isSome_get? (t : SymbolTable α) (name : String) :
    (t.get? name).isSome = t.isDefined name := by
  unfold get? isDefined lookup
  cases t.slot? name with
  | none => rfl
  | some a => cases h : isAbsent a <;> simp [Lookup.ofSlot, Lookup.value?, h]

end

end SymbolTable

end StyleScope
