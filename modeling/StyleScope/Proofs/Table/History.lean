import Mathlib.Data.List.Dedup
import StyleScope.Proofs.Table.Keys

/-!
# Tables as histories

A table that was filled from empty is the last-write-wins map of its writes: a write counts until the
next one under the same canonical key, however the two names are spelled. All questions to the table
are answered by the last writes.
-/

namespace StyleScope.SymbolTable

variable {α : Type u}

/-- Binds names one after the other. -/
def setAll (t : SymbolTable α) (writes : List (String × α)) : SymbolTable α :=
  writes.foldl (fun t w => t.set w.1 w.2) t

/-- The table that the writes make from an empty one. -/
def ofWrites (writes : List (String × α)) : SymbolTable α :=
  empty.setAll writes

/-- The last of the writes under the key `k` stored `a`. -/
def LastWrite (writes : List (String × α)) (k : String) (a : α) : Prop :=
  ∃ before name after, writes = before ++ (name, a) :: after ∧ canonicalKey name = k ∧
    ∀ w ∈ after, canonicalKey w.1 ≠ k

theorem setAll_append (t : SymbolTable α) (ws ws' : List (String × α)) :
    t.setAll (ws ++ ws') = (t.setAll ws).setAll ws' :=
  List.foldl_append

theorem setAll_cons (t : SymbolTable α) (w : String × α) (ws : List (String × α)) :
    t.setAll (w :: ws) = (t.set w.1 w.2).setAll ws :=
  rfl

theorem getElem?_setAll_of_forall_ne {k : String} (ws : List (String × α)) :
    ∀ t : SymbolTable α, (∀ w ∈ ws, canonicalKey w.1 ≠ k) → (t.setAll ws).bindings[k]? = t.bindings[k]? := by
  induction ws with
  | nil => intro t _; rfl
  | cons w ws ih =>
    intro t h
    rw [setAll_cons, ih _ fun w' hw' => h w' (List.mem_cons_of_mem _ hw'), getElem?_bindings_set,
      if_neg (h w List.mem_cons_self)]

theorem LastWrite.getElem?_setAll {ws : List (String × α)} {k : String} {a : α} (h : LastWrite ws k a)
    (t : SymbolTable α) : (t.setAll ws).bindings[k]? = some a := by
  obtain ⟨before, name, after, rfl, hk, hafter⟩ := h
  rw [setAll_append, setAll_cons, getElem?_setAll_of_forall_ne after _ hafter, getElem?_bindings_set,
    if_pos hk]

theorem LastWrite.cons {ws : List (String × α)} {k : String} {a : α} (h : LastWrite ws k a)
    (w : String × α) : LastWrite (w :: ws) k a := by
  obtain ⟨before, name, after, rfl, hk, hafter⟩ := h
  exact ⟨w :: before, name, after, rfl, hk, hafter⟩

theorem forall_ne_or_exists_lastWrite (ws : List (String × α)) (k : String) :
    (∀ w ∈ ws, canonicalKey w.1 ≠ k) ∨ ∃ a, LastWrite ws k a := by
  induction ws with
  | nil => exact Or.inl (by simp)
  | cons w ws ih =>
    rcases ih with hnone | ⟨a, ha⟩
    · by_cases hk : canonicalKey w.1 = k
      · exact Or.inr ⟨w.2, [], w.1, ws, rfl, hk, hnone⟩
      · exact Or.inl (List.forall_mem_cons.mpr ⟨hk, hnone⟩)
    · exact Or.inr ⟨a, ha.cons w⟩

theorem getElem?_ofWrites_iff {ws : List (String × α)} {k : String} {a : α} :
    (ofWrites ws).bindings[k]? = some a ↔ LastWrite ws k a := by
  unfold ofWrites
  constructor
  · intro h
    rcases forall_ne_or_exists_lastWrite ws k with hnone | ⟨a', ha'⟩
    · rw [getElem?_setAll_of_forall_ne ws _ hnone] at h
      simp [empty] at h
    · rw [ha'.getElem?_setAll] at h
      obtain rfl := Option.some.inj h
      exact ha'
  · exact fun h => h.getElem?_setAll _

theorem keys_setAll (ws : List (String × α)) : ∀ t : SymbolTable α,
    (t.setAll ws).keys = t.keys ∪ {k | ∃ w ∈ ws, canonicalKey w.1 = k} := by
  induction ws with
  | nil => intro t; simp [setAll]
  | cons w ws ih =>
    intro t
    rw [setAll_cons, ih, keys_set]
    ext k
    simp only [Set.mem_union, Set.mem_insert_iff, Set.mem_ofPred_eq, List.exists_mem_cons_iff]
    rw [eq_comm (a := k), or_comm (a := canonicalKey w.1 = k), or_assoc]

theorem mem_keys_ofWrites_iff {ws : List (String × α)} {k : String} :
    k ∈ (ofWrites ws).keys ↔ ∃ w ∈ ws, canonicalKey w.1 = k := by
  unfold ofWrites
  rw [keys_setAll]
  simp

theorem size_ofWrites (ws : List (String × α)) :
    (ofWrites ws).size = (ws.map fun w => canonicalKey w.1).dedup.length := by
  have hperm : ((ofWrites ws).entries.map Prod.fst).Perm (ws.map fun w => canonicalKey w.1).dedup := by
    refine (List.perm_ext_iff_of_nodup (nodup_entries _) (List.nodup_dedup _)).mpr fun k => ?_
    rw [mem_map_fst_entries_iff, mem_keys_ofWrites_iff, List.mem_dedup, List.mem_map]
  rw [← length_entries, ← hperm.length_eq, List.length_map]

section
variable [Presence α]

/-- **Last write wins.** The questions to a table filled from empty, answered by its history. -/
theorem observations_ofWrites (writes : List (String × α)) :
    (∀ p, (ofWrites writes).lookup p = .unbound ↔ ∀ w ∈ writes, canonicalKey w.1 ≠ canonicalKey p) ∧
    (∀ p a, LastWrite writes (canonicalKey p) a →
      (ofWrites writes).lookup p = if isAbsent a then .empty else .bound a) ∧
    (∀ p, (ofWrites writes).contains p = true ↔ ∃ w ∈ writes, canonicalKey w.1 = canonicalKey p) ∧
    (∀ p a, (ofWrites writes).get? p = some a ↔ LastWrite writes (canonicalKey p) a ∧ isAbsent a = false) ∧
    (∀ p, (ofWrites writes).isDefined p = true ↔
      ∃ a, LastWrite writes (canonicalKey p) a ∧ isAbsent a = false) ∧
    (ofWrites writes).size = (writes.map fun w => canonicalKey w.1).dedup.length ∧
    ((ofWrites writes).entries.map Prod.fst).Nodup ∧
    (∀ k, k ∈ (ofWrites writes).entries.map Prod.fst ↔ ∃ w ∈ writes, canonicalKey w.1 = k) ∧
    (∀ k a, (k, a) ∈ (ofWrites writes).entries ↔ LastWrite writes k a) := by
  have hslot : ∀ p a, (ofWrites writes).slot? p = some a ↔ LastWrite writes (canonicalKey p) a :=
    fun p a => getElem?_ofWrites_iff
  have hcontains : ∀ p, (ofWrites writes).contains p = true ↔
      ∃ w ∈ writes, canonicalKey w.1 = canonicalKey p :=
    fun p => contains_iff_mem_keys.trans mem_keys_ofWrites_iff
  refine ⟨fun p => ?_, fun p a h => lookup_of_slot? ((hslot p a).mpr h), hcontains, fun p a => ?_, fun p => ?_,
    size_ofWrites writes, nodup_entries _, fun k => mem_map_fst_entries_iff.trans mem_keys_ofWrites_iff,
    fun k a => mem_entries_iff.trans getElem?_ofWrites_iff⟩
  · rw [lookup_eq_unbound_iff, ← Option.not_isSome_iff_eq_none, ← contains_eq_isSome_slot?, hcontains]
    simp
  · rw [get?_eq_some_iff, hslot]
  · simp only [isDefined_iff, hslot]

end

end StyleScope.SymbolTable
