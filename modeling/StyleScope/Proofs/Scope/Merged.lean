import StyleScope.Proofs.Scope.Frames
import StyleScope.Proofs.Table.Canonical

/-!
# A chain as one table

A chain is searched from the innermost frame outwards and the search stops at the first holder. The
same answers come from a single table into which the frames are written from the global one inwards,
so that inner bindings overwrite outer ones. The keys of a frame are written as names once more; they
come back as themselves because every frame of a run is canonical.
-/

namespace StyleScope

/-- One table of several lists of writes, those of the last list made first. -/
def SymbolTable.merge {α : Type u} (writes : List (List (String × α))) : SymbolTable α :=
  writes.foldr (fun es t => t.setAll es) .empty

namespace ScopeChain

variable {α : Type u}

/-! ## The frames of a run are canonical -/

theorem Reassigned.canonical {written : Set String} {ts us : List (SymbolTable α)} (h : Reassigned written ts us)
    (hts : ∀ t ∈ ts, t.Canonical) : ∀ u ∈ us, u.Canonical := by
  intro u hu
  have hmem : u.keys ∈ ts.map (·.keys) := by
    rw [← h.keys_eq]
    exact List.mem_map_of_mem hu
  obtain ⟨t, ht, hkeys⟩ := List.mem_map.mp hmem
  unfold SymbolTable.Canonical
  rw [← hkeys]
  exact hts t ht

theorem canonical_setCurrent {c : ScopeChain α} (h : ∀ t ∈ c.frames, t.Canonical) (name : String) (a : α) :
    ∀ t ∈ (c.setCurrent name a).frames, t.Canonical := by
  rw [frames, List.forall_mem_cons] at h
  rw [frames_setCurrent, List.forall_mem_cons]
  exact ⟨h.1.set name a, h.2⟩

theorem Moves.canonical {c d : ScopeChain α} {act : Action α} (hm : Moves c act d)
    (h : ∀ t ∈ c.frames, t.Canonical) : ∀ t ∈ d.frames, t.Canonical := by
  cases hm with
  | stays => exact h
  | opens hp =>
    rw [frames_push hp, List.forall_mem_cons]
    exact ⟨SymbolTable.canonical_empty, h⟩
  | closes hp =>
    rw [frames_pop hp, List.forall_mem_cons] at h
    exact h.2
  | declares hd =>
    obtain ⟨-, rfl⟩ := declare_eq_ok_iff.mp hd
    exact canonical_setCurrent h _ _
  | assigns name a =>
    rw [frames_assign]
    cases hr : rebind? name a c.frames with
    | none => exact canonical_setCurrent h name a
    | some us => exact (reassigned_rebind? hr).canonical h
  | sets name a => exact canonical_setCurrent h name a

theorem canonical_run_new [Presence α] (config : ScopeConfig) (acts : List (Action α)) :
    ∀ t ∈ ((new config : ScopeChain α).run acts).chain.frames, t.Canonical := by
  refine run_invariant (P := fun c => ∀ t ∈ c.frames, t.Canonical) Moves.canonical acts _ ?_
  intro t ht
  rw [List.mem_singleton.mp ht]
  exact SymbolTable.canonical_empty

/-! ## Search and overwriting -/

/-- The first holder decides the slot that the writes leave. -/
theorem slot?_merge {writes : List (List (String × α))} {ts : List (SymbolTable α)}
    (h : List.Forall₂ (fun es t => es.Perm t.entries) writes ts) (hts : ∀ t ∈ ts, t.Canonical) (name : String) :
    (SymbolTable.merge writes).slot? name = ts.findSome? (·.slot? name) := by
  induction h with
  | nil => exact SymbolTable.slot?_empty name
  | @cons es t writes ts hes _ ih =>
    rw [List.forall_mem_cons] at hts
    have hslot : (SymbolTable.merge (es :: writes)).slot? name =
        (t.slot? name).or ((SymbolTable.merge writes).slot? name) :=
      hts.1.getElem?_setAll hes _ _
    rw [hslot, ih hts.2, List.findSome?_cons]
    cases t.slot? name with
    | none => rfl
    | some a => rfl

section
variable [Presence α]

/-- **One table for the chain.** Take any run, and any order of the entries of each frame, the
innermost frame first. The merged table gives the answers of the chain; a binding to the absent marker
hides whatever the frames around it hold. -/
theorem run_new_resolves_as_merged (config : ScopeConfig) (acts : List (Action α))
    (writes : List (List (String × α)))
    (h : List.Forall₂ (fun es t => es.Perm t.entries) writes ((new config).run acts).chain.frames) :
    let c := ((new config).run acts).chain
    let merged := SymbolTable.merge writes
    (∀ name, c.lookup name = merged.lookup name ∧ c.get? name = merged.get? name ∧
      c.isDefined name = merged.isDefined name) ∧
    ∀ name inner t outer a, c.frames = inner ++ t :: outer → (∀ u ∈ inner, u.contains name = false) →
      t.slot? name = some a → isAbsent a = true →
      merged.lookup name = .empty ∧ merged.get? name = none ∧ merged.isDefined name = false := by
  intro c merged
  have hslot : ∀ name, c.frames.findSome? (·.slot? name) = merged.slot? name := fun name =>
    (slot?_merge h (canonical_run_new config acts) name).symm
  have hlookup : ∀ name, c.lookup name = merged.lookup name := by
    intro name
    rw [lookup_eq_ofSlot, hslot]
    rfl
  refine ⟨fun name => ⟨hlookup name, congrArg Lookup.value? (hlookup name), ?_⟩, ?_⟩
  · rw [isDefined_eq_any_slot, hslot]
    rfl
  · intro name inner t outer a hframes hinner ht ha
    have hempty : merged.lookup name = .empty := by
      have hcontains : t.contains name = true := by
        rw [SymbolTable.contains_eq_isSome_slot?, ht]
        rfl
      rw [← hlookup, lookup_eq_of_first_holder hframes hinner hcontains, SymbolTable.lookup_of_slot? ht, if_pos ha]
    have hget : merged.get? name = none := by
      unfold SymbolTable.get?
      rw [hempty]
      rfl
    refine ⟨hempty, hget, ?_⟩
    rw [← SymbolTable.isSome_get?, hget]
    rfl

/-- Two frames, written back in an order that is not that of the keys; the inner one hides a value. -/
theorem run_new_resolves_as_merged_hidden :
    let acts : List (Action (Option Nat)) := [.declare "Size" (some 1), .declare "GAP" (some 2), .push,
      .declare "SIZE" none, .setCurrent "Ink" (some 3)]
    let writes : List (List (String × Option Nat)) :=
      [[("size", none), ("ink", some 3)], [("size", some 1), ("gap", some 2)]]
    let c := ((new .standard : ScopeChain (Option Nat)).run acts).chain
    List.Forall₂ (fun es t => es.Perm t.entries) writes c.frames ∧
      c.lookup "size" = (SymbolTable.merge writes).lookup "size" ∧
      (SymbolTable.merge writes).lookup "size" = .empty ∧
      c.get? "Gap" = (SymbolTable.merge writes).get? "Gap" := by
  intro acts writes c
  have h : List.Forall₂ (fun es t => es.Perm t.entries) writes c.frames := by decide +kernel
  obtain ⟨hanswers, hhidden⟩ := run_new_resolves_as_merged .standard acts writes h
  refine ⟨h, (hanswers "size").1, ?_, (hanswers "Gap").2.1⟩
  exact (hhidden "size" [] c.current c.enclosing none rfl (by simp) (by decide +kernel) rfl).1

end

end ScopeChain

end StyleScope
