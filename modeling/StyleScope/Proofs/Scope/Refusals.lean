import StyleScope.Proofs.Scope.Steps

/-!
# Refusals

A refusal has one cause for each action that can be refused, and it leaves no trace in the chain. So the
refused actions of a run, or any choice of them, can be taken out: what is left gives the same answers
and goes through the same chains.
-/

namespace StyleScope

/-- Whether an action was refused, or found no scope to close. -/
def Answer.isRefusal {α : Type u} : Answer α → Bool
  | .refused _ | .popped none => true
  | _ => false

/-- The elements without a mark. Past the end of the marks all elements stay. -/
def leaveOut {β : Type u} : List Bool → List β → List β
  | [], xs => xs
  | _ :: _, [] => []
  | marked :: marks, x :: xs => if marked then leaveOut marks xs else x :: leaveOut marks xs

theorem leaveOut_nil {β : Type u} (marks : List Bool) : leaveOut marks ([] : List β) = [] := by
  cases marks <;> rfl

theorem map_leaveOut {β : Type u} {γ : Type v} (f : β → γ) (xs : List β) :
    ∀ marks, (leaveOut marks xs).map f = leaveOut marks (xs.map f) := by
  induction xs with
  | nil => intro marks; rw [leaveOut_nil, List.map_nil, leaveOut_nil]
  | cons x xs ih =>
    intro marks
    cases marks with
    | nil => rfl
    | cons marked marks => cases marked <;> simp [leaveOut, ih]

namespace ScopeChain

variable {α : Type u} [Presence α]

theorem isRefusal_observe (c : ScopeChain α) (q : ScopeQuery) : (c.observe q).isRefusal = false := by
  cases q <;> rfl

theorem isRefusal_perform_iff (c : ScopeChain α) (act : Action α) :
    (c.perform act).answer.isRefusal = true ↔
      (act = .push ∧ ∃ r, c.push = .error r) ∨ (act = .pop ∧ c.pop = none) ∨
        ∃ name a, act = .declare name a ∧ ∃ r, c.declare name a = .error r := by
  cases act with
  | push => cases h : c.push <;> simp [perform, h, Answer.isRefusal]
  | pop => cases h : c.pop <;> simp [perform, h, Answer.isRefusal]
  | declare name a => cases h : c.declare name a <;> simp [perform, h, Answer.isRefusal]
  | assign name a => simp [perform, Answer.isRefusal]
  | setCurrent name a => simp [perform, Answer.isRefusal]
  | observe q => simp [perform, isRefusal_observe]

theorem Performs.chain_eq_of_isRefusal {c : ScopeChain α} {act : Action α} {s : Step α} (h : Performs c act s)
    (hr : s.answer.isRefusal = true) : s.chain = c := by
  cases h with
  | opens => cases hr
  | tooDeep => rfl
  | closes => cases hr
  | keepsGlobal => rfl
  | declares => cases hr
  | shadows => rfl
  | assigns => cases hr
  | sets => cases hr
  | observes => rfl

theorem steps_leaveOut (acts : List (Action α)) : ∀ (c : ScopeChain α) (marks : List Bool),
    (∀ p ∈ marks.zip (c.steps acts), p.1 = true → p.2.answer.isRefusal = true) →
    c.steps (leaveOut marks acts) = leaveOut marks (c.steps acts) ∧
      (c.run (leaveOut marks acts)).chain = (c.run acts).chain := by
  induction acts with
  | nil =>
    intro c marks _
    rw [leaveOut_nil, steps, leaveOut_nil]
    exact ⟨rfl, rfl⟩
  | cons act acts ih =>
    intro c marks h
    cases marks with
    | nil => exact ⟨rfl, rfl⟩
    | cons marked marks =>
      rw [steps, List.zip_cons_cons, List.forall_mem_cons] at h
      obtain ⟨hsteps, hchain⟩ := ih (c.perform act).chain marks h.2
      cases marked with
      | true =>
        -- the chain is where it was, so the rest runs as if the action had not been tried
        have hkept : (c.perform act).chain = c := (performs_perform c act).chain_eq_of_isRefusal (h.1 rfl)
        rw [chain_run_cons, steps]
        simp only [leaveOut, if_true]
        rw [hkept] at hsteps hchain ⊢
        exact ⟨hsteps, hchain⟩
      | false =>
        simp only [leaveOut, Bool.false_eq_true, if_false, steps, chain_run_cons]
        exact ⟨by rw [hsteps], hchain⟩

/-- **Refusals are exact and atomic.** When an action is refused and with which refusal; that it leaves
the chain as it was; and that the marked actions of a run, all of them refused, can be left out without
any change to the other steps or to the chain at the end. -/
theorem refusals_exact_and_atomic (c : ScopeChain α) :
    (∀ r, c.push = .error r ↔ c.config.maxDepth.toNat ≤ c.depth ∧ r = .depthExceeded c.config.maxDepth) ∧
    (∀ name a r, c.declare name a = .error r ↔
      (c.config.shadowing = .deny ∧ ∃ t ∈ c.frames.tail, canonicalKey name ∈ t.keys) ∧ r = .shadowing name) ∧
    (∀ name a, (c.perform (.assign name a)).answer = .done) ∧
    (∀ act, (c.perform act).answer.isRefusal = true ↔
      (act = .push ∧ ∃ r, c.push = .error r) ∨ (act = .pop ∧ c.pop = none) ∨
        ∃ name a, act = .declare name a ∧ ∃ r, c.declare name a = .error r) ∧
    (∀ act, (c.perform act).answer.isRefusal = true →
      (c.perform act).chain.frames = c.frames ∧ (c.perform act).chain.config = c.config) ∧
    ∀ (acts : List (Action α)) (marks : List Bool),
      (∀ p ∈ marks.zip (c.steps acts), p.1 = true → p.2.answer.isRefusal = true) →
      c.steps (leaveOut marks acts) = leaveOut marks (c.steps acts) ∧
      (c.run (leaveOut marks acts)).answers = leaveOut marks (c.run acts).answers ∧
      (c.run (leaveOut marks acts)).chain = (c.run acts).chain := by
  refine ⟨fun r => push_eq_error_iff, fun name a r => declare_eq_error_iff, fun name a => rfl,
    isRefusal_perform_iff c, fun act hr => ?_, fun acts marks h => ?_⟩
  · rw [(performs_perform c act).chain_eq_of_isRefusal hr]
    exact ⟨rfl, rfl⟩
  · obtain ⟨hsteps, hchain⟩ := steps_leaveOut acts c marks h
    refine ⟨hsteps, ?_, hchain⟩
    rw [run_eq_steps, run_eq_steps, hsteps, map_leaveOut]

/-- Each kind of refusal in one run, under a limit of two scopes: the global scope is not closed, a third
scope not opened, and a binding to the absent marker not hidden. -/
theorem refusals_exact_and_atomic_strict :
    let c : ScopeChain (Option Nat) := (new ⟨2, .deny⟩).setCurrent "size" none
    let acts : List (Action (Option Nat)) := [.pop, .push, .push, .declare "Size" (some 1),
      .assign "gap" (some 2), .observe (.lookup "SIZE"), .pop]
    let kept : List (Action (Option Nat)) := [.push, .assign "gap" (some 2), .observe (.lookup "SIZE"), .pop]
    let marks := [true, false, true, true]
    (∀ p ∈ marks.zip (c.steps acts), p.1 = true → p.2.answer.isRefusal = true) ∧
      c.steps kept = leaveOut marks (c.steps acts) ∧ (c.run kept).chain = (c.run acts).chain := by
  intro c acts kept marks
  have h : ∀ p ∈ marks.zip (c.steps acts), p.1 = true → p.2.answer.isRefusal = true := by decide +kernel
  obtain ⟨-, -, -, -, -, hrun⟩ := refusals_exact_and_atomic c
  obtain ⟨hsteps, -, hchain⟩ := hrun acts marks h
  exact ⟨h, hsteps, hchain⟩

end ScopeChain

end StyleScope
