import StyleScope.Proofs.Table.Canonical

/-!
# Equality of tables

Tables are compared by what they store: the same keys, with equal slots. A question sees less of a table,
for it goes through a canonical key and shows no slot that is the absent marker. For tables filled from
empty nothing is lost: all their keys are canonical, and there is only one absent marker. So equal
tables are those that answer alike, and the entries of a table, in any order, make it again.
-/

namespace StyleScope

/-- Data with no more than one absent marker. -/
class SoleAbsent (α : Type u) [Presence α] : Prop where
  eq_of_isAbsent : ∀ {a b : α}, isAbsent a = true → isAbsent b = true → a = b

instance : SoleAbsent Value where
  eq_of_isAbsent {a b} ha hb := by
    have hnull : ∀ v : Value, isAbsent v = true → v = .null := by
      intro v hv
      cases v with
      | null => rfl
      | _ => cases hv
    rw [hnull a ha, hnull b hb]

instance {β : Type u} : SoleAbsent (Option β) where
  eq_of_isAbsent {a b} ha hb := by
    rw [Option.isNone_iff_eq_none.mp ha, Option.isNone_iff_eq_none.mp hb]

theorem Lookup.ofSlot_inj {α : Type u} [Presence α] [SoleAbsent α] {a? b? : Option α} :
    ofSlot a? = ofSlot b? ↔ a? = b? := by
  refine ⟨fun h => ?_, congrArg ofSlot⟩
  cases hout : ofSlot b? with
  | unbound => rw [ofSlot_eq_unbound_iff.mp hout, ofSlot_eq_unbound_iff.mp (h.trans hout)]
  | empty =>
    obtain ⟨a, rfl, ha⟩ := ofSlot_eq_empty_iff.mp (h.trans hout)
    obtain ⟨b, rfl, hb⟩ := ofSlot_eq_empty_iff.mp hout
    rw [SoleAbsent.eq_of_isAbsent ha hb]
  | bound b => rw [(ofSlot_eq_bound_iff.mp hout).1, (ofSlot_eq_bound_iff.mp (h.trans hout)).1]

namespace SymbolTable

variable {α : Type u}

instance [BEq α] [LawfulBEq α] : LawfulBEq (SymbolTable α) where
  eq_of_beq {s t} h := congrArg mk (eq_of_beq (a := s.bindings) (b := t.bindings) h)
  rfl {t} := BEq.rfl (a := t.bindings)

theorem Canonical.eq_of_slot?_eq {s t : SymbolTable α} (hs : s.Canonical) (ht : t.Canonical)
    (h : ∀ name, s.slot? name = t.slot? name) : s = t := by
  apply eq_of_slots
  intro k
  by_cases hk : canonicalKey k = k
  · have := h k
    unfold slot? at this
    rwa [hk] at this
  · -- neither table stores a key that is not canonical
    have hnone : ∀ {u : SymbolTable α}, u.Canonical → u.bindings[k]? = none := by
      intro u hu
      by_contra hne
      exact hk (hu k (mem_keys_iff.mpr (Option.ne_none_iff_exists'.mp hne)))
    rw [hnone hs, hnone ht]

theorem Canonical.ofWrites_eq {t : SymbolTable α} (h : t.Canonical) {es : List (String × α)}
    (hes : es.Perm t.entries) : ofWrites es = t := by
  apply eq_of_slots
  intro k
  unfold ofWrites
  rw [h.getElem?_setAll hes]
  simp [empty]

section
variable [BEq α] [LawfulBEq α]

theorem beq_ofWrites_iff [Presence α] [SoleAbsent α] (ws ws' : List (String × α)) :
    (ofWrites ws == ofWrites ws') = true ↔
      ∀ name, ((ofWrites ws).lookup name == (ofWrites ws').lookup name) = true := by
  simp only [beq_iff_eq]
  constructor
  · intro h name
    rw [h]
  · intro h
    exact (canonical_ofWrites ws).eq_of_slot?_eq (canonical_ofWrites ws') fun name => Lookup.ofSlot_inj.mp (h name)

theorem beq_ofWrites_of_perm (ws es : List (String × α)) (hes : es.Perm (ofWrites ws).entries) :
    (ofWrites es == ofWrites ws) = true := by
  rw [beq_iff_eq]
  exact (canonical_ofWrites ws).ofWrites_eq hes

end

/-- **Equal tables are those that answer alike.** Tables of values or of optional values, filled from
empty, are equal exactly if every name has equal outcomes in them; and writing the entries of such a
table in any order into an empty one gives an equal table. -/
theorem beq_iff_lookups_beq_and_rebuilt :
    (∀ ws ws' : List (String × Value), (ofWrites ws == ofWrites ws') = true ↔
      ∀ name, ((ofWrites ws).lookup name == (ofWrites ws').lookup name) = true) ∧
    (∀ ws ws' : List (String × Option Value), (ofWrites ws == ofWrites ws') = true ↔
      ∀ name, ((ofWrites ws).lookup name == (ofWrites ws').lookup name) = true) ∧
    (∀ ws es : List (String × Value), es.Perm (ofWrites ws).entries → (ofWrites es == ofWrites ws) = true) ∧
    (∀ ws es : List (String × Option Value), es.Perm (ofWrites ws).entries →
      (ofWrites es == ofWrites ws) = true) :=
  ⟨beq_ofWrites_iff, beq_ofWrites_iff, beq_ofWrites_of_perm, beq_ofWrites_of_perm⟩

end SymbolTable

end StyleScope
