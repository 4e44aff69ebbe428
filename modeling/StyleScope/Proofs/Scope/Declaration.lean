import StyleScope.Proofs.Scope.Steps

/-!
# Declarations where shadowing is denied

A declaration looks at the enclosing frames and writes the innermost one; an assignment looks for the
nearest holder. Where shadowing is denied the two meet. An accepted declaration has no holder among
the enclosing frames, so the assignment writes the innermost frame as well; a refused one has a holder,
so the assignment finds a binding to replace and adds none.
-/

namespace StyleScope

/-- An assignment in place of a declaration. Other actions stay. -/
def Action.assigning {α : Type u} : Action α → Action α
  | .declare name a => .assign name a
  | act => act

namespace ScopeChain

variable {α : Type u}

theorem assign_eq_setCurrent {c : ScopeChain α} {name : String} (h : ∀ t ∈ c.enclosing, t.contains name = false)
    (a : α) : c.assign name a = c.setCurrent name a := by
  unfold assign
  by_cases hcurrent : c.current.contains name = true
  · rw [if_pos hcurrent]
  · rw [if_neg hcurrent, rebind?_eq_none_iff.mpr h]

theorem map_keys_frames_assign {c : ScopeChain α} {name : String} (h : ∃ t ∈ c.frames, t.contains name = true)
    (a : α) : (c.assign name a).frames.map (·.keys) = c.frames.map (·.keys) := by
  rw [frames_assign]
  cases hr : rebind? name a c.frames with
  | none =>
    obtain ⟨t, ht, hholds⟩ := h
    rw [rebind?_eq_none_iff.mp hr t ht] at hholds
    cases hholds
  | some ts => exact (reassigned_rebind? hr).keys_eq

theorem eq_assign_of_declare {c d : ScopeChain α} {name : String} {a : α} (hdeny : c.config.shadowing = .deny)
    (h : c.declare name a = .ok d) : d = c.assign name a := by
  obtain ⟨hfree, rfl⟩ := declare_eq_ok_iff.mp h
  exact (assign_eq_setCurrent (hfree hdeny) a).symm

section
variable [Presence α]

theorem perform_assign_of_declare {c d : ScopeChain α} {name : String} {a : α}
    (hdeny : c.config.shadowing = .deny) (h : c.declare name a = .ok d) :
    c.perform (.declare name a) = c.perform (.assign name a) := by
  obtain rfl := eq_assign_of_declare hdeny h
  simp only [perform, h]

/-- **An accepted declaration is an assignment.** Where shadowing is denied, it leaves the chain and
tells the events of the assignment. Where it is refused, the assignment binds no new key in any frame. -/
theorem declare_agrees_with_assign {c : ScopeChain α} (hdeny : c.config.shadowing = .deny) (name : String) (a : α) :
    (∀ d, c.declare name a = .ok d →
      d = c.assign name a ∧ c.perform (.declare name a) = c.perform (.assign name a)) ∧
    ∀ r, c.declare name a = .error r →
      (c.assign name a).frames.map (·.keys) = c.frames.map (·.keys) := by
  refine ⟨fun d h => ⟨eq_assign_of_declare hdeny h, perform_assign_of_declare hdeny h⟩, fun r h => ?_⟩
  obtain ⟨⟨-, t, ht, hholds⟩, -⟩ := declare_eq_error_iff.mp h
  exact map_keys_frames_assign ⟨t, List.mem_cons_of_mem _ ht, hholds⟩ a

theorem declare_agrees_with_assign_strict :
    let c : ScopeChain (Option Nat) :=
      ⟨SymbolTable.empty.set "gap" (some 1), [SymbolTable.empty.set "size" none], .strict⟩
    c.config.shadowing = .deny ∧
      c.declare "GAP" (some 2) = .ok (c.setCurrent "GAP" (some 2)) ∧
      c.setCurrent "GAP" (some 2) = c.assign "GAP" (some 2) ∧
      c.declare "Size" (some 3) = .error (.shadowing "Size") ∧
      (c.assign "Size" (some 3)).frames.map (·.keys) = c.frames.map (·.keys) := by
  intro c
  have hgap : c.declare "GAP" (some 2) = .ok (c.setCurrent "GAP" (some 2)) :=
    declare_eq_ok_iff.mpr ⟨fun _ => by decide +kernel, rfl⟩
  -- the global frame binds the name to the absent marker, and that is enough
  have hsize : c.declare "Size" (some 3) = .error (.shadowing "Size") :=
    declare_eq_error_iff.mpr ⟨⟨rfl, by decide +kernel⟩, rfl⟩
  exact ⟨rfl, hgap, ((declare_agrees_with_assign rfl "GAP" (some 2)).1 _ hgap).1, hsize,
    (declare_agrees_with_assign rfl "Size" (some 3)).2 _ hsize⟩

/-! ## Runs -/

theorem perform_assigning {c : ScopeChain α} (hdeny : c.config.shadowing = .deny) {act : Action α}
    (h : ∀ name, (c.perform act).answer ≠ .refused (.shadowing name)) :
    c.perform act.assigning = c.perform act := by
  cases act with
  | declare name a =>
    cases hd : c.declare name a with
    | ok d => exact (perform_assign_of_declare hdeny hd).symm
    | error r =>
      obtain ⟨-, rfl⟩ := declare_eq_error_iff.mp hd
      refine absurd ?_ (h name)
      simp only [perform, hd]
  | _ => rfl

/-- Where shadowing is denied, a run without a refused declaration is a run of assignments. -/
theorem run_map_assigning (acts : List (Action α)) : ∀ c : ScopeChain α, c.config.shadowing = .deny →
    (∀ answer ∈ (c.run acts).answers, ∀ name, answer ≠ .refused (.shadowing name)) →
    c.run (acts.map Action.assigning) = c.run acts := by
  induction acts with
  | nil => intro c _ _; rfl
  | cons act acts ih =>
    intro c hdeny h
    simp only [run, List.forall_mem_cons] at h
    have hstep := perform_assigning hdeny h.1
    have hrest := ih (c.perform act).chain ((moves_perform c act).config_eq ▸ hdeny) h.2
    simp only [List.map_cons, run, hstep, hrest]

end

end ScopeChain

end StyleScope
