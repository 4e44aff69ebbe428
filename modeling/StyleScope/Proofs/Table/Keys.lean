import Mathlib.Data.Set.Insert
import StyleScope.Table.Lemmas

/-!
# Stored keys

A table is known once the slot under every stored key is known. Writing a name adds its canonical key
and touches no other slot; the entries list every stored key once.
-/

namespace StyleScope.SymbolTable

variable {α : Type u}

/-- The keys under which a table holds a slot, be it the absent marker. -/
def keys (t : SymbolTable α) : Set String :=
  {k | k ∈ t.bindings}

theorem mem_keys_iff {t : SymbolTable α} {k : String} : k ∈ t.keys ↔ ∃ a, t.bindings[k]? = some a := by
  rw [← Option.isSome_iff_exists]
  exact Std.ExtTreeMap.mem_iff_isSome_getElem?

theorem contains_iff_mem_keys {t : SymbolTable α} {name : String} :
    t.contains name = true ↔ canonicalKey name ∈ t.keys :=
  Iff.rfl

theorem contains_eq_false_iff {t : SymbolTable α} {name : String} :
    t.contains name = false ↔ canonicalKey name ∉ t.keys := by
  rw [← contains_iff_mem_keys, Bool.not_eq_true]

@[simp] theorem keys_empty : (empty : SymbolTable α).keys = ∅ := by
  ext k
  simp [keys, empty]

theorem getElem?_bindings_set (t : SymbolTable α) (name : String) (a : α) (k : String) :
    (t.set name a).bindings[k]? = if canonicalKey name = k then some a else t.bindings[k]? := by
  unfold set
  rw [Std.ExtTreeMap.getElem?_insert]
  simp only [Std.compare_eq_iff_eq]

theorem keys_set (t : SymbolTable α) (name : String) (a : α) :
    (t.set name a).keys = insert (canonicalKey name) t.keys := by
  ext k
  rw [Set.mem_insert_iff, eq_comm (a := k)]
  simp only [keys, set, Set.mem_ofPred_eq, Std.ExtTreeMap.mem_insert, Std.compare_eq_iff_eq]

theorem keys_set_of_contains {t : SymbolTable α} {name : String} (h : t.contains name = true) (a : α) :
    (t.set name a).keys = t.keys := by
  rw [keys_set, Set.insert_eq_of_mem (contains_iff_mem_keys.mp h)]

theorem eq_of_slots {s t : SymbolTable α} (h : ∀ k : String, s.bindings[k]? = t.bindings[k]?) : s = t := by
  obtain ⟨sb⟩ := s
  obtain ⟨tb⟩ := t
  congr 1
  exact Std.ExtTreeMap.ext_getElem? h

/-! ## Entries -/

theorem mem_entries_iff {t : SymbolTable α} {k : String} {a : α} :
    (k, a) ∈ t.entries ↔ t.bindings[k]? = some a :=
  Std.ExtTreeMap.mem_toList_iff_getElem?_eq_some

theorem nodup_entries (t : SymbolTable α) : (t.entries.map Prod.fst).Nodup := by
  unfold entries
  rw [Std.ExtTreeMap.map_fst_toList_eq_keys]
  exact Std.ExtTreeMap.nodup_keys

theorem mem_map_fst_entries_iff {t : SymbolTable α} {k : String} :
    k ∈ t.entries.map Prod.fst ↔ k ∈ t.keys := by
  rw [List.mem_map, mem_keys_iff]
  constructor
  · rintro ⟨⟨k', a⟩, hmem, rfl⟩
    exact ⟨a, mem_entries_iff.mp hmem⟩
  · rintro ⟨a, ha⟩
    exact ⟨(k, a), mem_entries_iff.mpr ha, rfl⟩

theorem length_entries (t : SymbolTable α) : t.entries.length = t.size :=
  Std.ExtTreeMap.length_toList

end StyleScope.SymbolTable
