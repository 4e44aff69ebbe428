import StyleScope.Proofs.Scope.Frames

/-!
# Resolution

A name is resolved in its nearest holder, the first frame that binds it, be it to the absent marker.
The questions for a name search the frames in different ways and agree. An assignment writes the frame
that they find, or the innermost one if they find none.
-/

namespace StyleScope.ScopeChain

variable {α : Type u}

/-- `t` is the first frame that binds the name, `inner` are the frames before it. -/
structure NearestHolder (c : ScopeChain α) (name : String) (inner : List (SymbolTable α)) (t : SymbolTable α)
    (outer : List (SymbolTable α)) : Prop where
  frames_eq : c.frames = inner ++ t :: outer
  inner_free : ∀ u ∈ inner, u.contains name = false
  holds : t.contains name = true

theorem findSome?_slot?_eq_none_iff {ts : List (SymbolTable α)} {name : String} :
    ts.findSome? (·.slot? name) = none ↔ ∀ t ∈ ts, t.contains name = false := by
  simp only [List.findSome?_eq_none_iff, SymbolTable.slot?_eq_none_iff]

theorem findSome?_slot?_eq_some_iff {c : ScopeChain α} {name : String} {a : α} :
    c.frames.findSome? (·.slot? name) = some a ↔
      ∃ inner t outer, c.NearestHolder name inner t outer ∧ t.slot? name = some a := by
  rw [List.findSome?_eq_some_iff]
  constructor
  · rintro ⟨inner, t, outer, hframes, ht, hinner⟩
    have hfree : ∀ u ∈ inner, u.contains name = false := fun u hu => SymbolTable.slot?_eq_none_iff.mp (hinner u hu)
    exact ⟨inner, t, outer, ⟨hframes, hfree, SymbolTable.contains_of_slot? ht⟩, ht⟩
  · rintro ⟨inner, t, outer, h, ht⟩
    exact ⟨inner, t, outer, h.frames_eq, ht, fun u hu => SymbolTable.slot?_eq_none_iff.mpr (h.inner_free u hu)⟩

/-! ## Questions -/

section
variable [Presence α] {c : ScopeChain α} {name : String} {a : α}

theorem lookup_eq_unbound_iff : c.lookup name = .unbound ↔ ∀ t ∈ c.frames, t.contains name = false := by
  rw [lookup_eq_ofSlot, Lookup.ofSlot_eq_unbound_iff, findSome?_slot?_eq_none_iff]

theorem lookup_eq_empty_iff : c.lookup name = .empty ↔
    ∃ inner t outer a, c.NearestHolder name inner t outer ∧ t.slot? name = some a ∧ isAbsent a = true := by
  rw [lookup_eq_ofSlot, Lookup.ofSlot_eq_empty_iff]
  simp only [findSome?_slot?_eq_some_iff]
  constructor
  · rintro ⟨a, ⟨inner, t, outer, h, ht⟩, ha⟩
    exact ⟨inner, t, outer, a, h, ht, ha⟩
  · rintro ⟨inner, t, outer, a, h, ht, ha⟩
    exact ⟨a, ⟨inner, t, outer, h, ht⟩, ha⟩

theorem lookup_eq_bound_iff : c.lookup name = .bound a ↔
    (∃ inner t outer, c.NearestHolder name inner t outer ∧ t.slot? name = some a) ∧ isAbsent a = false := by
  rw [lookup_eq_ofSlot, Lookup.ofSlot_eq_bound_iff, findSome?_slot?_eq_some_iff]

theorem get?_eq_some_iff : c.get? name = some a ↔ c.lookup name = .bound a :=
  Lookup.value?_eq_some_iff

theorem isDefined_iff : c.isDefined name = true ↔ ∃ a, c.lookup name = .bound a := by
  rw [isDefined_eq_any_slot, lookup_eq_ofSlot]
  simp [Lookup.ofSlot_eq_bound_iff, Option.any_eq_true]

/-- **The questions agree.** A name is defined exactly if it has a value, and this is the slot that the
lookup carries, which is not the absent marker. It is unbound exactly if no frame binds it, and empty
exactly if its nearest holder has the absent marker, whatever the frames behind it have. -/
theorem resolution_queries_agree (c : ScopeChain α) (name : String) :
    (c.isDefined name = true ↔ (c.get? name).isSome = true) ∧
    ((c.get? name).isSome = true ↔ ∃ a, c.lookup name = .bound a) ∧
    (∀ a, c.lookup name = .bound a ↔ c.get? name = some a) ∧
    (∀ a, c.lookup name = .bound a ↔
      (∃ inner t outer, c.NearestHolder name inner t outer ∧ t.slot? name = some a) ∧ isAbsent a = false) ∧
    (c.lookup name = .unbound ↔ ∀ t ∈ c.frames, t.contains name = false) ∧
    (c.lookup name = .empty ↔
      ∃ inner t outer a, c.NearestHolder name inner t outer ∧ t.slot? name = some a ∧ isAbsent a = true) := by
  have hget : (c.get? name).isSome = true ↔ ∃ a, c.lookup name = .bound a := by
    simp only [Option.isSome_iff_exists, get?_eq_some_iff]
  exact ⟨isDefined_iff.trans hget.symm, hget, fun a => get?_eq_some_iff.symm, fun a => lookup_eq_bound_iff,
    lookup_eq_unbound_iff, lookup_eq_empty_iff⟩

end

/-! ## Assignment -/

theorem rebind?_eq_some {name : String} {a : α} : ∀ {ts us : List (SymbolTable α)}, rebind? name a ts = some us →
    ∃ inner t outer, ts = inner ++ t :: outer ∧ (∀ u ∈ inner, u.contains name = false) ∧
      t.contains name = true ∧ us = inner ++ t.set name a :: outer
  | [], us, h => by cases h
  | t :: ts, us, h => by
    unfold rebind? at h
    by_cases ht : t.contains name = true
    · rw [if_pos ht] at h
      exact ⟨[], t, ts, rfl, by simp, ht, (Option.some.inj h).symm⟩
    · rw [if_neg ht] at h
      obtain ⟨us', hus, rfl⟩ := Option.map_eq_some_iff.mp h
      obtain ⟨inner, t', outer, rfl, hinner, ht', rfl⟩ := rebind?_eq_some hus
      refine ⟨t :: inner, t', outer, rfl, ?_, ht', rfl⟩
      exact List.forall_mem_cons.mpr ⟨by simpa using ht, hinner⟩

/-- An assignment writes one frame. -/
theorem exists_frames_assign (c : ScopeChain α) (name : String) (a : α) :
    ∃ inner t outer, c.frames = inner ++ t :: outer ∧
      (c.assign name a).frames = inner ++ t.set name a :: outer ∧
      (c.NearestHolder name inner t outer ∨ inner = [] ∧ ∀ u ∈ c.frames, u.contains name = false) := by
  rw [frames_assign]
  cases hr : rebind? name a c.frames with
  | some us =>
    obtain ⟨inner, t, outer, hc, hinner, ht, rfl⟩ := rebind?_eq_some hr
    exact ⟨inner, t, outer, hc, rfl, Or.inl ⟨hc, hinner, ht⟩⟩
  | none =>
    have hfree := rebind?_eq_none_iff.mp hr
    exact ⟨[], c.current, c.enclosing, rfl, rfl, Or.inr ⟨rfl, hfree⟩⟩

section
variable [Presence α]

theorem lookup_of_written {d : ScopeChain α} {name p : String} {a : α} {inner outer : List (SymbolTable α)}
    {t : SymbolTable α} (hd : d.frames = inner ++ t.set name a :: outer)
    (hinner : ∀ u ∈ inner, u.contains name = false) (hp : canonicalKey p = canonicalKey name) :
    d.lookup p = if isAbsent a then .empty else .bound a := by
  have hfree : ∀ u ∈ inner, u.contains p = false := by
    intro u hu
    rw [SymbolTable.contains_eq_of_canonicalKey_eq hp, hinner u hu]
  have hslot : (t.set name a).slot? p = some a := by
    rw [SymbolTable.slot?_set, if_pos hp.symm]
  rw [lookup_eq_of_first_holder hd hfree (SymbolTable.contains_of_slot? hslot), SymbolTable.lookup_of_slot? hslot]

theorem lookup_of_unwritten {c d : ScopeChain α} {name q : String} {a : α} {inner outer : List (SymbolTable α)}
    {t : SymbolTable α} (hc : c.frames = inner ++ t :: outer) (hd : d.frames = inner ++ t.set name a :: outer)
    (hq : canonicalKey q ≠ canonicalKey name) : d.lookup q = c.lookup q := by
  have hslot : (t.set name a).slot? q = t.slot? q := by
    rw [SymbolTable.slot?_set, if_neg (Ne.symm hq)]
  rw [lookup_eq_ofSlot, lookup_eq_ofSlot, hc, hd, List.findSome?_append, List.findSome?_append,
    List.findSome?_cons, List.findSome?_cons, hslot]

/-- **Assignment meets resolution.** One frame is written: the first that binds the name, which is the one
the name is resolved in, or the innermost if none does. In it only the slot of the name changes. So the
new slot is what every spelling of the name is resolved to, and other names are resolved as before. -/
theorem assign_writes_where_resolved (c : ScopeChain α) (name : String) (a : α) :
    let d := c.assign name a
    (∃ inner t u outer, c.frames = inner ++ t :: outer ∧ d.frames = inner ++ u :: outer ∧
      (c.NearestHolder name inner t outer ∨ inner = [] ∧ ∀ s ∈ c.frames, s.contains name = false) ∧
      c.lookup name = t.lookup name ∧
      ∀ k : String, u.bindings[k]? = if canonicalKey name = k then some a else t.bindings[k]?) ∧
    d.depth = c.depth ∧ d.config = c.config ∧
    (∀ p, canonicalKey p = canonicalKey name → d.lookup p = if isAbsent a then .empty else .bound a) ∧
    (∀ q, canonicalKey q ≠ canonicalKey name → d.lookup q = c.lookup q) := by
  intro d
  obtain ⟨inner, t, outer, hc, hd, htarget⟩ := exists_frames_assign c name a
  have hinner : ∀ u ∈ inner, u.contains name = false := by
    rcases htarget with h | ⟨rfl, -⟩
    · exact h.inner_free
    · simp
  have hlookup : c.lookup name = t.lookup name := by
    rcases htarget with h | ⟨-, hfree⟩
    · exact lookup_eq_of_first_holder hc hinner h.holds
    · -- no frame binds the name, and `t` is one of them
      have ht : t.slot? name = none := SymbolTable.slot?_eq_none_iff.mpr (hfree t (by simp [hc]))
      rw [lookup_eq_unbound_iff.mpr hfree, SymbolTable.lookup_eq_unbound_iff.mpr ht]
  have hslots := SymbolTable.getElem?_bindings_set t name a
  exact ⟨⟨inner, t, _, outer, hc, hd, htarget, hlookup, hslots⟩, depth_assign c name a, config_assign c name a,
    fun p hp => lookup_of_written hd hinner hp, fun q hq => lookup_of_unwritten hc hd hq⟩

end

end StyleScope.ScopeChain
