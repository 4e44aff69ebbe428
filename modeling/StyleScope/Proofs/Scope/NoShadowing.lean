import Mathlib
import StyleScope.Proofs.Scope.Frames

/-!
# No shadowing

Where the policy denies shadowing, only a declaration is checked, and an assignment writes any frame
unchecked. Still no key ever gets into two frames: an assignment adds a key only to the innermost
frame, and only if no frame holds it.
-/

namespace StyleScope

/-- Whether an action writes the innermost scope past the policy. -/
def Action.bypassesPolicy {α : Type u} : Action α → Bool
  | .setCurrent .. => true
  | _ => false

namespace ScopeChain

variable {α : Type u}

/-- No key is stored in two frames. -/
def Unshadowed (c : ScopeChain α) : Prop :=
  (c.frames.map (·.keys)).Pairwise Disjoint

theorem unshadowed_new (config : ScopeConfig) : (new config : ScopeChain α).Unshadowed :=
  List.pairwise_singleton _ _

theorem Unshadowed.setCurrent {c : ScopeChain α} (h : c.Unshadowed) {name : String} (a : α)
    (hfree : ∀ t ∈ c.enclosing, t.contains name = false) : (c.setCurrent name a).Unshadowed := by
  unfold Unshadowed at h ⊢
  rw [frames_setCurrent, List.map_cons, List.pairwise_cons]
  rw [frames, List.map_cons, List.pairwise_cons] at h
  refine ⟨fun ks hks => ?_, h.2⟩
  obtain ⟨t, ht, rfl⟩ := List.mem_map.mp hks
  rw [SymbolTable.keys_set, Set.disjoint_insert_left]
  exact ⟨SymbolTable.contains_eq_false_iff.mp (hfree t ht), h.1 _ hks⟩

theorem Unshadowed.assign {c : ScopeChain α} (h : c.Unshadowed) (name : String) (a : α) :
    (c.assign name a).Unshadowed := by
  cases hr : rebind? name a c.frames with
  | none =>
    -- nothing holds the name, so the innermost frame takes a key that is new to the chain
    have hfree := rebind?_eq_none_iff.mp hr
    have hset := h.setCurrent a fun t ht => hfree t (List.mem_cons_of_mem _ ht)
    unfold Unshadowed at hset ⊢
    rwa [frames_assign, hr]
  | some ts =>
    unfold Unshadowed at h ⊢
    rwa [frames_assign, hr, Option.getD_some, (reassigned_rebind? hr).keys_eq]

theorem Moves.unshadowed {c d : ScopeChain α} {act : Action α} (hm : Moves c act d)
    (hdeny : c.config.shadowing = .deny) (hact : act.bypassesPolicy = false) (h : c.Unshadowed) :
    d.Unshadowed := by
  cases hm with
  | stays => exact h
  | opens hp =>
    unfold Unshadowed
    rw [frames_push hp, List.map_cons, List.pairwise_cons]
    exact ⟨fun ks _ => by simp, h⟩
  | closes hp =>
    unfold Unshadowed at h
    rw [frames_pop hp, List.map_cons, List.pairwise_cons] at h
    exact h.2
  | declares hd =>
    obtain ⟨hfree, rfl⟩ := declare_eq_ok_iff.mp hd
    exact h.setCurrent _ (hfree hdeny)
  | assigns name a => exact h.assign name a
  | sets name a => cases hact

theorem Unshadowed.eq_false_of_holder {c : ScopeChain α} (h : c.Unshadowed) {name : String}
    {inner outer : List (SymbolTable α)} {t : SymbolTable α} (hc : c.frames = inner ++ t :: outer)
    (ht : t.contains name = true) : ∀ u ∈ inner ++ outer, u.contains name = false := by
  unfold Unshadowed at h
  rw [hc, List.map_append, List.map_cons, List.pairwise_middle fun hd => hd.symm, List.pairwise_cons,
    ← List.map_append] at h
  intro u hu
  have hdisj := h.1 _ (List.mem_map_of_mem hu)
  exact SymbolTable.contains_eq_false_iff.mpr
    (Set.disjoint_left.mp hdisj (SymbolTable.contains_iff_mem_keys.mp ht))

section
variable [Presence α]

theorem unshadowed_run (acts : List (Action α)) : ∀ c : ScopeChain α, c.config.shadowing = .deny →
    (∀ act ∈ acts, act.bypassesPolicy = false) → c.Unshadowed → (c.run acts).chain.Unshadowed := by
  induction acts with
  | nil => intro c _ _ h; exact h
  | cons act acts ih =>
    intro c hdeny hacts h
    have hm := moves_perform c act
    rw [List.forall_mem_cons] at hacts
    rw [chain_run_cons]
    exact ih _ (hm.config_eq ▸ hdeny) hacts.2 (hm.unshadowed hdeny hacts.1 h)

/-- **No shadowing.** After any run under the denying policy, opened and closed scopes, refusals and
questions included, the frames have disjoint key sets, and a name is resolved in the only frame that
holds it. -/
theorem run_new_disjoint_frames (config : ScopeConfig) (hdeny : config.shadowing = .deny)
    (acts : List (Action α)) (hacts : ∀ act ∈ acts, act.bypassesPolicy = false) :
    let c := ((new config : ScopeChain α).run acts).chain
    (c.frames.map (·.keys)).Pairwise Disjoint ∧
    ∀ name,
      ((∀ t ∈ c.frames, t.contains name = false) ∧ c.lookup name = .unbound) ∨
      ∃ inner t outer, c.frames = inner ++ t :: outer ∧ t.contains name = true ∧
        (∀ u ∈ inner ++ outer, u.contains name = false) ∧ c.lookup name = t.lookup name := by
  intro c
  have h : c.Unshadowed := unshadowed_run acts _ hdeny hacts (unshadowed_new config)
  refine ⟨h, fun name => ?_⟩
  by_cases hfree : ∀ t ∈ c.frames, t.contains name = false
  · exact Or.inl ⟨hfree, lookup_eq_unbound hfree⟩
  · obtain ⟨t, ht, htn⟩ : ∃ t ∈ c.frames, t.contains name = true := by simpa using hfree
    obtain ⟨inner, outer, hc⟩ := List.append_of_mem ht
    have hrest := h.eq_false_of_holder hc htn
    exact Or.inr ⟨inner, t, outer, hc, htn, hrest,
      lookup_eq_of_first_holder hc (fun u hu => hrest u (List.mem_append_left _ hu)) htn⟩

/-- A run with a binding to the absent marker, a refused declaration and assignments to both frames. -/
theorem run_new_disjoint_frames_strict :
    let acts : List (Action (Option Nat)) := [.declare "size" none, .push, .declare "Size" (some 1),
      .assign "SIZE" (some 2), .assign "gap" none, .observe (.lookup "size")]
    let c := ((new .strict : ScopeChain (Option Nat)).run acts).chain
    ScopeConfig.strict.shadowing = .deny ∧ (∀ act ∈ acts, act.bypassesPolicy = false) ∧
      c.frames.map (·.entries) = [[("gap", none)], [("size", some 2)]] ∧
      (c.frames.map (·.keys)).Pairwise Disjoint := by
  intro acts c
  have hacts : ∀ act ∈ acts, act.bypassesPolicy = false := by simp [acts, Action.bypassesPolicy]
  exact ⟨rfl, hacts, by decide +kernel, (run_new_disjoint_frames .strict rfl acts hacts).1⟩

end

end ScopeChain

end StyleScope
