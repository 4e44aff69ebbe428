import StyleScope.Proofs.Scope.Frames

/-!
# Actions case by case

`Performs` lists what an action can come to: the condition, the answer, the chain it leaves and its
events. It holds of the step that an action takes and of no other (`performs_iff`), so a proof about
actions is a case split on it. `steps` keeps every step of a run, where `run` keeps the last chain only.
-/

namespace StyleScope.ScopeChain

variable {α : Type u}

theorem push_eq_error_iff {c : ScopeChain α} {r : Refusal} :
    c.push = .error r ↔ c.config.maxDepth.toNat ≤ c.depth ∧ r = .depthExceeded c.config.maxDepth := by
  unfold push
  by_cases h : c.config.maxDepth.toNat ≤ c.depth
  · simp [h, eq_comm]
  · simp [h]

theorem declare_eq_error_iff {c : ScopeChain α} {name : String} {a : α} {r : Refusal} :
    c.declare name a = .error r ↔
      (c.config.shadowing = .deny ∧ ∃ t ∈ c.enclosing, t.contains name = true) ∧ r = .shadowing name := by
  unfold declare
  by_cases h : c.config.shadowing = .deny ∧ c.enclosing.any (·.contains name) = true
  · rw [if_pos h, Except.error.injEq]
    exact ⟨fun hr => ⟨⟨h.1, List.any_eq_true.mp h.2⟩, hr.symm⟩, fun hr => hr.2.symm⟩
  · rw [if_neg h]
    refine ⟨fun hr => ?_, fun hr => absurd ⟨hr.1.1, List.any_eq_true.mpr hr.1.2⟩ h⟩
    cases hr

section
variable [Presence α]

inductive Performs (c : ScopeChain α) : Action α → Step α → Prop
  | opens : c.depth < c.config.maxDepth.toNat →
      Performs c .push ⟨.done, ⟨.empty, c.frames, c.config⟩, [.enterScope (c.depth + 1)]⟩
  | tooDeep : c.config.maxDepth.toNat ≤ c.depth →
      Performs c .push ⟨.refused (.depthExceeded c.config.maxDepth), c, [.depthLimitReached c.config.maxDepth]⟩
  | closes {outer : SymbolTable α} {rest : List (SymbolTable α)} : c.enclosing = outer :: rest →
      Performs c .pop ⟨.popped (some c.current), ⟨outer, rest, c.config⟩, [.exitScope (rest.length + 1)]⟩
  | keepsGlobal : c.enclosing = [] → Performs c .pop ⟨.popped none, c, [.exitGlobalRefused]⟩
  | declares {name : String} {a : α} :
      (c.config.shadowing = .deny → ∀ t ∈ c.enclosing, t.contains name = false) →
      Performs c (.declare name a) ⟨.done, c.setCurrent name a, [.ofBinding name]⟩
  | shadows {name : String} {a : α} :
      (c.config.shadowing = .deny ∧ ∃ t ∈ c.enclosing, t.contains name = true) →
      Performs c (.declare name a) ⟨.refused (.shadowing name), c, [.shadowingRefused name]⟩
  | assigns (name : String) (a : α) :
      Performs c (.assign name a) ⟨.done, c.assign name a, [.ofBinding name]⟩
  | sets (name : String) (a : α) :
      Performs c (.setCurrent name a) ⟨.done, c.setCurrent name a, [.ofBinding name]⟩
  | observes (q : ScopeQuery) : Performs c (.observe q) ⟨c.observe q, c, []⟩

theorem performs_perform (c : ScopeChain α) (act : Action α) : Performs c act (c.perform act) := by
  cases act with
  | push =>
    simp only [perform]
    cases h : c.push with
    | ok d =>
      obtain ⟨hlt, rfl⟩ := push_eq_ok_iff.mp h
      exact .opens hlt
    | error r =>
      obtain ⟨hle, rfl⟩ := push_eq_error_iff.mp h
      exact .tooDeep hle
  | pop =>
    simp only [perform, pop]
    cases h : c.enclosing with
    | nil => exact .keepsGlobal h
    | cons outer rest => exact .closes h
  | declare name a =>
    simp only [perform]
    cases h : c.declare name a with
    | ok d =>
      obtain ⟨hfree, rfl⟩ := declare_eq_ok_iff.mp h
      exact .declares hfree
    | error r =>
      obtain ⟨hshadow, rfl⟩ := declare_eq_error_iff.mp h
      exact .shadows hshadow
  | assign name a => exact .assigns name a
  | setCurrent name a => exact .sets name a
  | observe q => exact .observes q

theorem Performs.unique {c : ScopeChain α} {act : Action α} {s s' : Step α} (h : Performs c act s)
    (h' : Performs c act s') : s = s' := by
  -- the conditions of the two cases of an action exclude each other
  cases h <;> cases h' <;> grind

theorem performs_iff {c : ScopeChain α} {act : Action α} {s : Step α} :
    Performs c act s ↔ c.perform act = s :=
  ⟨fun h => (performs_perform c act).unique h, fun h => h ▸ performs_perform c act⟩

theorem Performs.config_eq {c : ScopeChain α} {act : Action α} {s : Step α} (h : Performs c act s) :
    s.chain.config = c.config := by
  rw [← performs_iff.mp h]
  exact (moves_perform c act).config_eq

/-! ## Every step of a run -/

/-- The steps of a run, in order. -/
def steps (c : ScopeChain α) : List (Action α) → List (Step α)
  | [] => []
  | act :: acts => c.perform act :: (c.perform act).chain.steps acts

theorem run_eq_steps (acts : List (Action α)) : ∀ c : ScopeChain α, c.run acts =
    ⟨(c.steps acts).map (·.answer), ((c.steps acts).getLast?.map (·.chain)).getD c,
      (c.steps acts).flatMap (·.events)⟩ := by
  induction acts with
  | nil => intro c; rfl
  | cons act acts ih =>
    intro c
    simp only [run, steps, ih, List.map_cons, List.flatMap_cons, List.getLast?_cons]
    cases (steps _ acts).getLast? with
    | none => rfl
    | some s => rfl

end

end StyleScope.ScopeChain
