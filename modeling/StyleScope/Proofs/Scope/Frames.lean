import StyleScope.Proofs.Table.Keys
import StyleScope.Scope.Lemmas

/-!
# What an action does to the frames

An action leaves the chain as it is, opens or closes a scope, writes the innermost frame, or rebinds a
name in the first frame that holds it. `moves_perform` says so once; `frames_assign` and `Reassigned`
describe the rebinding.
-/

namespace StyleScope.ScopeChain

variable {α : Type u}

@[simp] theorem frames_setCurrent (c : ScopeChain α) (name : String) (a : α) :
    (c.setCurrent name a).frames = c.current.set name a :: c.enclosing :=
  rfl

theorem depth_pop {c d : ScopeChain α} {t : SymbolTable α} (h : c.pop = some (t, d)) :
    c.depth = d.depth + 1 := by
  rw [← length_frames, frames_pop h, List.length_cons, length_frames]

theorem config_push {c d : ScopeChain α} (h : c.push = .ok d) : d.config = c.config := by
  rw [(push_eq_ok_iff.mp h).2]

theorem config_pop {c d : ScopeChain α} {t : SymbolTable α} (h : c.pop = some (t, d)) :
    d.config = c.config := by
  unfold pop at h
  split at h
  · cases h
  · simp only [Option.some.injEq, Prod.mk.injEq] at h
    obtain ⟨-, rfl⟩ := h
    rfl

theorem declare_eq_ok_iff {c d : ScopeChain α} {name : String} {a : α} :
    c.declare name a = .ok d ↔
      (c.config.shadowing = .deny → ∀ t ∈ c.enclosing, t.contains name = false) ∧ d = c.setCurrent name a := by
  unfold declare
  split
  case isTrue h =>
    obtain ⟨hdeny, hany⟩ := h
    obtain ⟨t, ht, htn⟩ := List.any_eq_true.mp hany
    simp only [reduceCtorEq, false_iff, not_and]
    intro hfree
    rw [hfree hdeny t ht] at htn
    cases htn
  case isFalse h =>
    have hfree : c.config.shadowing = .deny → ∀ t ∈ c.enclosing, t.contains name = false := by
      intro hdeny t ht
      by_contra hn
      exact h ⟨hdeny, List.any_eq_true.mpr ⟨t, ht, by simpa using hn⟩⟩
    simp only [Except.ok.injEq, eq_comm (b := d)]
    exact ⟨fun hd => ⟨hfree, hd⟩, And.right⟩

/-! ## Rebinding -/

theorem rebind?_eq_none_iff {name : String} {a : α} {ts : List (SymbolTable α)} :
    rebind? name a ts = none ↔ ∀ t ∈ ts, t.contains name = false := by
  induction ts with
  | nil => simp [rebind?]
  | cons t ts ih => by_cases h : t.contains name = true <;> simp [rebind?, h, ih]

theorem rebind?_append (name : String) (a : α) (ts us : List (SymbolTable α)) :
    rebind? name a (ts ++ us) =
      ((rebind? name a ts).map (· ++ us)).or ((rebind? name a us).map (ts ++ ·)) := by
  induction ts with
  | nil => simp [rebind?]
  | cons t ts ih =>
    by_cases h : t.contains name = true
    · simp [rebind?, h]
    · cases hts : rebind? name a ts <;> simp [rebind?, h, ih, hts, Function.comp_def]

/-- Assigning rebinds the name in the first frame that holds it, and else writes the innermost one. -/
theorem frames_assign (c : ScopeChain α) (name : String) (a : α) :
    (c.assign name a).frames =
      (rebind? name a c.frames).getD (c.current.set name a :: c.enclosing) := by
  unfold assign frames
  by_cases h : c.current.contains name = true
  · simp [rebind?, h, setCurrent]
  · cases he : rebind? name a c.enclosing <;> simp [rebind?, h, he, setCurrent]

theorem frames_assign_of_first_holder {c : ScopeChain α} {name : String} {inner outer : List (SymbolTable α)}
    {t : SymbolTable α} (hc : c.frames = inner ++ t :: outer) (hinner : ∀ u ∈ inner, u.contains name = false)
    (ht : t.contains name = true) (a : α) : (c.assign name a).frames = inner ++ t.set name a :: outer := by
  rw [frames_assign, hc, rebind?_append, rebind?_eq_none_iff.mpr hinner]
  simp [rebind?, ht]

theorem config_assign (c : ScopeChain α) (name : String) (a : α) : (c.assign name a).config = c.config := by
  unfold assign
  split
  · rfl
  · split <;> rfl

/-- `after` has the frames of `before` with the same keys. A slot may differ only under a key in
`written`, and only in the first frame that holds this key. -/
structure Reassigned (written : Set String) (before after : List (SymbolTable α)) : Prop where
  keys_eq : after.map (·.keys) = before.map (·.keys)
  slot_ne : ∀ (i : Nat) (t u : SymbolTable α), before[i]? = some t → after[i]? = some u →
    ∀ k : String, u.bindings[k]? ≠ t.bindings[k]? →
      k ∈ written ∧ k ∈ t.keys ∧ ∀ s ∈ before.take i, k ∉ s.keys

namespace Reassigned

variable {written written' : Set String} {ts us vs : List (SymbolTable α)}

theorem slot_eq_of_same {i : Nat} {t u : SymbolTable α} (ht : ts[i]? = some t) (hu : ts[i]? = some u)
    (k : String) : u.bindings[k]? = t.bindings[k]? := by
  rw [ht] at hu
  obtain rfl := Option.some.inj hu
  rfl

theorem refl (written : Set String) (ts : List (SymbolTable α)) : Reassigned written ts ts :=
  ⟨rfl, fun _ _ _ ht hu k hne => absurd (slot_eq_of_same ht hu k) hne⟩

theorem length_eq (h : Reassigned written ts us) : us.length = ts.length := by
  have := congrArg List.length h.keys_eq
  rwa [List.length_map, List.length_map] at this

theorem mono (h : Reassigned written ts us) (hsub : written ⊆ written') : Reassigned written' ts us :=
  ⟨h.keys_eq, fun i t u ht hu k hne =>
    let ⟨hk, hrest⟩ := h.slot_ne i t u ht hu k hne
    ⟨hsub hk, hrest⟩⟩

theorem keys_getElem? (h : Reassigned written ts us) (i : Nat) :
    us[i]?.map (·.keys) = ts[i]?.map (·.keys) := by
  rw [← List.getElem?_map, ← List.getElem?_map, h.keys_eq]

theorem trans (h₁ : Reassigned written ts us) (h₂ : Reassigned written us vs) : Reassigned written ts vs := by
  refine ⟨h₂.keys_eq.trans h₁.keys_eq, fun i t v ht hv k hne => ?_⟩
  have hlen : i < us.length := by
    rw [h₁.length_eq]
    exact (List.getElem?_eq_some_iff.mp ht).1
  obtain ⟨u, hu⟩ : ∃ u, us[i]? = some u := ⟨_, List.getElem?_eq_getElem hlen⟩
  by_cases hut : u.bindings[k]? = t.bindings[k]?
  · -- the second change moved the slot, so its holder in `us` is the holder in `ts`
    obtain ⟨hk, hku, hfirst⟩ := h₂.slot_ne i u v hu hv k (hut ▸ hne)
    have hkeys : u.keys = t.keys := by
      have := h₁.keys_getElem? i
      rw [hu, ht] at this
      exact Option.some.inj this
    refine ⟨hk, hkeys ▸ hku, fun s hs hks => ?_⟩
    have hmem : s.keys ∈ (us.take i).map (·.keys) := by
      rw [List.map_take, h₁.keys_eq, ← List.map_take]
      exact List.mem_map_of_mem hs
    obtain ⟨s', hs', hss⟩ := List.mem_map.mp hmem
    exact hfirst s' hs' (hss ▸ hks)
  · exact h₁.slot_ne i t u ht hu k hut

theorem eq_of_written_empty (h : Reassigned ∅ ts us) : us = ts := by
  refine List.ext_getElem? fun i => ?_
  have hkeys := h.keys_getElem? i
  cases ht : ts[i]? with
  | none =>
    rw [ht] at hkeys
    simpa using hkeys
  | some t =>
    rw [ht] at hkeys
    obtain ⟨u, hu, -⟩ := Option.map_eq_some_iff.mp hkeys
    rw [hu]
    congr 1
    refine SymbolTable.eq_of_slots fun k => ?_
    by_contra hne
    exact (h.slot_ne i t u ht hu k hne).1

theorem set_head {t : SymbolTable α} {name : String} (h : t.contains name = true) (a : α)
    (ts : List (SymbolTable α)) : Reassigned {canonicalKey name} (t :: ts) (t.set name a :: ts) := by
  refine ⟨by simp [SymbolTable.keys_set_of_contains h], fun i s u hs hu k hne => ?_⟩
  cases i with
  | zero =>
    simp only [List.getElem?_cons_zero, Option.some.injEq] at hs hu
    subst hs hu
    rw [SymbolTable.getElem?_bindings_set] at hne
    split at hne
    · rename_i hk
      subst hk
      exact ⟨rfl, SymbolTable.contains_iff_mem_keys.mp h, by simp⟩
    · exact absurd rfl hne
  | succ i =>
    rw [List.getElem?_cons_succ] at hs hu
    exact absurd (slot_eq_of_same hs hu k) hne

theorem cons (h : Reassigned written ts us) {t : SymbolTable α} (hfree : ∀ k ∈ written, k ∉ t.keys) :
    Reassigned written (t :: ts) (t :: us) := by
  refine ⟨by simp [h.keys_eq], fun i s u hs hu k hne => ?_⟩
  cases i with
  | zero =>
    simp only [List.getElem?_cons_zero, Option.some.injEq] at hs hu
    subst hs hu
    exact absurd rfl hne
  | succ i =>
    rw [List.getElem?_cons_succ] at hs hu
    obtain ⟨hk, hks, hfirst⟩ := h.slot_ne i s u hs hu k hne
    refine ⟨hk, hks, ?_⟩
    rw [List.take_succ_cons]
    exact List.forall_mem_cons.mpr ⟨hfree k hk, hfirst⟩

end Reassigned

theorem reassigned_rebind? {name : String} {a : α} : ∀ {ts us : List (SymbolTable α)},
    rebind? name a ts = some us → Reassigned {canonicalKey name} ts us
  | [], us, h => by cases h
  | t :: ts, us, h => by
    unfold rebind? at h
    split at h
    · rename_i ht
      obtain rfl := Option.some.inj h
      exact Reassigned.set_head ht a ts
    · rename_i ht
      obtain ⟨us', hus, rfl⟩ := Option.map_eq_some_iff.mp h
      refine (reassigned_rebind? hus).cons ?_
      rintro k rfl
      exact SymbolTable.contains_eq_false_iff.mp (Bool.not_eq_true _ ▸ ht)

theorem depth_assign (c : ScopeChain α) (name : String) (a : α) : (c.assign name a).depth = c.depth := by
  rw [← length_frames, frames_assign]
  cases hr : rebind? name a c.frames with
  | none => rfl
  | some ts => exact (reassigned_rebind? hr).length_eq

/-! ## Resolution -/

section
variable [Presence α]

theorem find?_lookup_eq_none {name : String} {ts : List (SymbolTable α)}
    (h : ∀ t ∈ ts, t.contains name = false) : (ts.map (·.lookup name)).find? (·.isPresent) = none := by
  rw [List.find?_eq_none]
  intro l hl
  obtain ⟨t, ht, rfl⟩ := List.mem_map.mp hl
  rw [SymbolTable.isPresent_lookup, h t ht]
  exact Bool.false_ne_true

theorem lookup_eq_of_first_holder {c : ScopeChain α} {name : String} {inner outer : List (SymbolTable α)}
    {t : SymbolTable α} (hc : c.frames = inner ++ t :: outer) (hinner : ∀ u ∈ inner, u.contains name = false)
    (ht : t.contains name = true) : c.lookup name = t.lookup name := by
  unfold lookup
  rw [hc, List.map_append, List.find?_append, find?_lookup_eq_none hinner, List.map_cons,
    List.find?_cons_of_pos (by rw [SymbolTable.isPresent_lookup, ht])]
  rfl

theorem lookup_eq_unbound {c : ScopeChain α} {name : String} (h : ∀ t ∈ c.frames, t.contains name = false) :
    c.lookup name = .unbound := by
  unfold lookup
  rw [find?_lookup_eq_none h]
  rfl

theorem lookup_eq_ofSlot (c : ScopeChain α) (name : String) :
    c.lookup name = .ofSlot (c.frames.findSome? (·.slot? name)) := by
  unfold lookup
  induction c.frames with
  | nil => rfl
  | cons t ts ih =>
    rw [List.map_cons, List.find?_cons, List.findSome?_cons, SymbolTable.isPresent_lookup,
      SymbolTable.contains_eq_isSome_slot?]
    cases ht : t.slot? name with
    | none => exact ih
    | some a => simp [SymbolTable.lookup, ht]

theorem isDefined_eq_any_slot (c : ScopeChain α) (name : String) :
    c.isDefined name = (c.frames.findSome? (·.slot? name)).any (!isAbsent ·) := by
  unfold isDefined
  induction c.frames with
  | nil => rfl
  | cons t ts ih =>
    rw [List.find?_cons, List.findSome?_cons, SymbolTable.contains_eq_isSome_slot?]
    cases ht : t.slot? name with
    | none => exact ih
    | some a => simp [SymbolTable.isDefined, ht]

end

/-! ## One action -/

/-- The chains an action may leave. -/
inductive Moves (c : ScopeChain α) : Action α → ScopeChain α → Prop
  /-- A question, a refusal, or the global scope that was not closed. -/
  | stays (act : Action α) : Moves c act c
  | opens {d : ScopeChain α} : c.push = .ok d → Moves c .push d
  | closes {t : SymbolTable α} {d : ScopeChain α} : c.pop = some (t, d) → Moves c .pop d
  | declares {name : String} {a : α} {d : ScopeChain α} :
      c.declare name a = .ok d → Moves c (.declare name a) d
  | assigns (name : String) (a : α) : Moves c (.assign name a) (c.assign name a)
  | sets (name : String) (a : α) : Moves c (.setCurrent name a) (c.setCurrent name a)

theorem Moves.config_eq {c d : ScopeChain α} {act : Action α} (h : Moves c act d) : d.config = c.config := by
  cases h with
  | stays => rfl
  | opens h => exact config_push h
  | closes h => exact config_pop h
  | declares h => rw [(declare_eq_ok_iff.mp h).2]; rfl
  | assigns name a => exact config_assign c name a
  | sets name a => rfl

section
variable [Presence α]

theorem moves_perform (c : ScopeChain α) (act : Action α) : Moves c act (c.perform act).chain := by
  cases act with
  | push =>
    simp only [perform]
    cases h : c.push with
    | ok d => exact .opens h
    | error r => exact .stays _
  | pop =>
    simp only [perform]
    cases h : c.pop with
    | none => exact .stays _
    | some p => exact .closes h
  | declare name a =>
    simp only [perform]
    cases h : c.declare name a with
    | ok d => exact .declares h
    | error r => exact .stays _
  | assign name a => exact .assigns name a
  | setCurrent name a => exact .sets name a
  | observe q => exact .stays _

theorem chain_run_cons (c : ScopeChain α) (act : Action α) (acts : List (Action α)) :
    (c.run (act :: acts)).chain = ((c.perform act).chain.run acts).chain :=
  rfl

/-- What every action keeps, every run keeps. -/
theorem run_invariant {P : ScopeChain α → Prop} (hstep : ∀ {c d act}, Moves c act d → P c → P d)
    (acts : List (Action α)) : ∀ c : ScopeChain α, P c → P (c.run acts).chain := by
  induction acts with
  | nil => intro c h; exact h
  | cons act acts ih =>
    intro c h
    rw [chain_run_cons]
    exact ih _ (hstep (moves_perform c act) h)

theorem config_run (acts : List (Action α)) (c : ScopeChain α) : (c.run acts).chain.config = c.config :=
  run_invariant (P := fun d => d.config = c.config) (fun hm h => hm.config_eq.trans h) acts c rfl

end

end StyleScope.ScopeChain
