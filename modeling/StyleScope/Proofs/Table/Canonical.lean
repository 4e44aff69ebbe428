import StyleScope.Proofs.Table.History
import StyleScope.Proofs.Text.Stable

/-!
# Canonical tables

A canonical key is its own canonical key, and writes store nothing else. So the entries of a table can
be written back, in any order: each of them reaches the slot it was read from.
-/

namespace StyleScope

theorem canonicalKey_canonicalKey (name : String) : canonicalKey (canonicalKey name) = canonicalKey name :=
  Text.lowercase_lowercase name

namespace SymbolTable

variable {α : Type u}

/-- Every stored key is its own canonical key. -/
def Canonical (t : SymbolTable α) : Prop :=
  ∀ k ∈ t.keys, canonicalKey k = k

theorem canonical_empty : (empty : SymbolTable α).Canonical := by
  intro k hk
  rw [keys_empty] at hk
  exact absurd hk (Set.notMem_empty k)

theorem Canonical.set {t : SymbolTable α} (h : t.Canonical) (name : String) (a : α) :
    (t.set name a).Canonical := by
  intro k hk
  rw [keys_set, Set.mem_insert_iff] at hk
  rcases hk with rfl | hk
  · exact canonicalKey_canonicalKey name
  · exact h k hk

theorem Canonical.setAll (writes : List (String × α)) :
    ∀ {t : SymbolTable α}, t.Canonical → (t.setAll writes).Canonical := by
  induction writes with
  | nil => exact id
  | cons w writes ih =>
    intro t h
    exact ih (h.set w.1 w.2)

theorem canonical_ofWrites (writes : List (String × α)) : (ofWrites writes).Canonical :=
  canonical_empty.setAll writes

theorem Canonical.slot?_of_mem_entries {t : SymbolTable α} (h : t.Canonical) {k : String} {a : α}
    (hk : (k, a) ∈ t.entries) : canonicalKey k = k ∧ t.slot? k = some a := by
  have hslot := mem_entries_iff.mp hk
  have hkey := h k (mem_keys_iff.mpr ⟨a, hslot⟩)
  refine ⟨hkey, ?_⟩
  unfold slot?
  rw [hkey, hslot]

/-- **Canonical keys are fixed points.** So every entry of a table filled from empty is found under its
own key, and what is found there is the slot of the entry. -/
theorem entries_ofWrites_found_under_key [Presence α] :
    (∀ name, canonicalKey (canonicalKey name) = canonicalKey name) ∧
    ∀ (writes : List (String × α)) (k : String) (a : α), (k, a) ∈ (ofWrites writes).entries →
      canonicalKey k = k ∧ (ofWrites writes).contains k = true ∧ (ofWrites writes).slot? k = some a ∧
      (ofWrites writes).lookup k = if isAbsent a then .empty else .bound a := by
  refine ⟨canonicalKey_canonicalKey, fun writes k a hk => ?_⟩
  obtain ⟨hkey, hslot⟩ := (canonical_ofWrites writes).slot?_of_mem_entries hk
  exact ⟨hkey, contains_of_slot? hslot, hslot, lookup_of_slot? hslot⟩

/-! ## Writing the entries back -/

section
variable {t : SymbolTable α} {es : List (String × α)}

theorem Canonical.canonicalKey_of_mem (h : t.Canonical) (hes : es.Perm t.entries) {w : String × α} (hw : w ∈ es) :
    canonicalKey w.1 = w.1 :=
  h w.1 (mem_map_fst_entries_iff.mp (List.mem_map_of_mem (hes.mem_iff.mp hw)))

theorem Canonical.lastWrite (h : t.Canonical) (hes : es.Perm t.entries) {k : String} {a : α}
    (hk : t.bindings[k]? = some a) : LastWrite es k a := by
  have hmem : (k, a) ∈ es := hes.mem_iff.mpr (mem_entries_iff.mpr hk)
  have hnodup : (es.map Prod.fst).Nodup := (hes.map Prod.fst).nodup_iff.mpr (nodup_entries t)
  have hcanonical := fun w => h.canonicalKey_of_mem hes (w := w)
  obtain ⟨before, after, rfl⟩ := List.append_of_mem hmem
  rw [List.map_append, List.map_cons, List.nodup_middle, List.nodup_cons, ← List.map_append] at hnodup
  refine ⟨before, k, after, rfl, hcanonical (k, a) hmem, fun w hw hwk => hnodup.1 ?_⟩
  -- a second write under `k` would be a second entry under `k`
  have hkey : w.1 = k := by
    rw [← hwk, hcanonical w (List.mem_append_right _ (List.mem_cons_of_mem _ hw))]
  exact List.mem_map.mpr ⟨w, List.mem_append_right _ hw, hkey⟩

theorem Canonical.getElem?_setAll (h : t.Canonical) (hes : es.Perm t.entries) (base : SymbolTable α) (k : String) :
    (base.setAll es).bindings[k]? = t.bindings[k]?.or base.bindings[k]? := by
  cases hk : t.bindings[k]? with
  | some a => rw [(h.lastWrite hes hk).getElem?_setAll, Option.some_or]
  | none =>
    rw [Option.none_or]
    refine getElem?_setAll_of_forall_ne es base fun w hw hwk => ?_
    rw [h.canonicalKey_of_mem hes hw] at hwk
    have hentry := mem_entries_iff.mp (hes.mem_iff.mp hw)
    rw [hwk, hk] at hentry
    cases hentry

end

end SymbolTable

end StyleScope
