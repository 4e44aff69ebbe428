import Mathlib.Data.List.Forall2
import StyleScope.Proofs.Scope.Steps

/-!
# Respelling

Of a name, a chain reads nothing but the canonical key. Two runs that differ in the spelling of their
names go through the same chains, with the same answers and events; only the refusal of a declaration
gives back the name as it was written. The step lemma is `Performs.respell`.
-/

namespace StyleScope

/-- The same question, about another spelling of the name. -/
inductive TableQuery.Respells : TableQuery → TableQuery → Prop
  | get {m n : String} : canonicalKey m = canonicalKey n → Respells (.get m) (.get n)
  | isDefined {m n : String} : canonicalKey m = canonicalKey n → Respells (.isDefined m) (.isDefined n)
  | contains {m n : String} : canonicalKey m = canonicalKey n → Respells (.contains m) (.contains n)
  | lookup {m n : String} : canonicalKey m = canonicalKey n → Respells (.lookup m) (.lookup n)
  | same (q : TableQuery) : Respells q q

inductive ScopeQuery.Respells : ScopeQuery → ScopeQuery → Prop
  | get {m n : String} : canonicalKey m = canonicalKey n → Respells (.get m) (.get n)
  | isDefined {m n : String} : canonicalKey m = canonicalKey n → Respells (.isDefined m) (.isDefined n)
  | lookup {m n : String} : canonicalKey m = canonicalKey n → Respells (.lookup m) (.lookup n)
  | current {q r : TableQuery} : q.Respells r → Respells (.current q) (.current r)
  | global {q r : TableQuery} : q.Respells r → Respells (.global q) (.global r)
  | same (q : ScopeQuery) : Respells q q

/-- The same action with the same slot, on another spelling of the name. -/
inductive Action.Respells {α : Type u} : Action α → Action α → Prop
  | push : Respells .push .push
  | pop : Respells .pop .pop
  | declare {m n : String} (h : canonicalKey m = canonicalKey n) (a : α) : Respells (.declare m a) (.declare n a)
  | assign {m n : String} (h : canonicalKey m = canonicalKey n) (a : α) : Respells (.assign m a) (.assign n a)
  | setCurrent {m n : String} (h : canonicalKey m = canonicalKey n) (a : α) :
      Respells (.setCurrent m a) (.setCurrent n a)
  | observe {q r : ScopeQuery} : q.Respells r → Respells (.observe q) (.observe r)

/-- The steps of two actions are the same, or both are refused declarations, and each tells the name
that its own action has. -/
inductive Step.Alike {α : Type u} : Action α → Action α → Step α → Step α → Prop
  | same {act act' : Action α} {s : Step α} : (∀ name, s.answer ≠ .refused (.shadowing name)) → Alike act act' s s
  | shadowing (m n : String) (a : α) (c : ScopeChain α) :
      Alike (.declare m a) (.declare n a) ⟨.refused (.shadowing m), c, [.shadowingRefused m]⟩
        ⟨.refused (.shadowing n), c, [.shadowingRefused n]⟩

theorem Step.Alike.chain_eq {α : Type u} {act act' : Action α} {s s' : Step α} (h : Alike act act' s s') :
    s.chain = s'.chain := by
  cases h <;> rfl

section
variable {m n : String} (h : canonicalKey m = canonicalKey n)
include h

theorem Event.ofBinding_eq_of_canonicalKey_eq : Event.ofBinding m = Event.ofBinding n := by
  unfold Event.ofBinding
  rw [h]

namespace ScopeChain

variable {α : Type u}

theorem setCurrent_eq_of_canonicalKey_eq (c : ScopeChain α) (a : α) : c.setCurrent m a = c.setCurrent n a := by
  unfold setCurrent
  rw [SymbolTable.set_eq_of_canonicalKey_eq h]

theorem rebind?_eq_of_canonicalKey_eq (a : α) (ts : List (SymbolTable α)) : rebind? m a ts = rebind? n a ts := by
  induction ts with
  | nil => rfl
  | cons t ts ih =>
    unfold rebind?
    rw [SymbolTable.contains_eq_of_canonicalKey_eq h, SymbolTable.set_eq_of_canonicalKey_eq h, ih]

theorem assign_eq_of_canonicalKey_eq (c : ScopeChain α) (a : α) : c.assign m a = c.assign n a := by
  unfold assign
  rw [SymbolTable.contains_eq_of_canonicalKey_eq h, rebind?_eq_of_canonicalKey_eq h,
    setCurrent_eq_of_canonicalKey_eq h]

variable [Presence α]

theorem lookup_eq_of_canonicalKey_eq (c : ScopeChain α) : c.lookup m = c.lookup n := by
  simp only [lookup_eq_ofSlot, SymbolTable.slot?_eq_of_canonicalKey_eq h]

theorem isDefined_eq_of_canonicalKey_eq (c : ScopeChain α) : c.isDefined m = c.isDefined n := by
  simp only [isDefined_eq_any_slot, SymbolTable.slot?_eq_of_canonicalKey_eq h]

end ScopeChain

end

section
variable {α : Type u} [Presence α]

theorem TableQuery.Respells.observe_eq {q r : TableQuery} (h : q.Respells r) (t : SymbolTable α) :
    t.observe q = t.observe r := by
  cases h with
  | get h =>
    have hslot := SymbolTable.slot?_eq_of_canonicalKey_eq h t
    simp only [SymbolTable.observe, SymbolTable.get?, SymbolTable.lookup, hslot]
  | isDefined h =>
    have hslot := SymbolTable.slot?_eq_of_canonicalKey_eq h t
    simp only [SymbolTable.observe, SymbolTable.isDefined, hslot]
  | contains h => simp only [SymbolTable.observe, SymbolTable.contains_eq_of_canonicalKey_eq h]
  | lookup h =>
    have hslot := SymbolTable.slot?_eq_of_canonicalKey_eq h t
    simp only [SymbolTable.observe, SymbolTable.lookup, hslot]
  | same => rfl

theorem ScopeQuery.Respells.observe_eq {q r : ScopeQuery} (h : q.Respells r) (c : ScopeChain α) :
    c.observe q = c.observe r := by
  cases h with
  | get h => simp only [ScopeChain.observe, ScopeChain.get?, ScopeChain.lookup_eq_of_canonicalKey_eq h]
  | isDefined h => simp only [ScopeChain.observe, ScopeChain.isDefined_eq_of_canonicalKey_eq h]
  | lookup h => simp only [ScopeChain.observe, ScopeChain.lookup_eq_of_canonicalKey_eq h]
  | current h => simp only [ScopeChain.observe, h.observe_eq]
  | global h => simp only [ScopeChain.observe, h.observe_eq]
  | same => rfl

namespace ScopeChain

theorem observe_ne_refused (c : ScopeChain α) (q : ScopeQuery) (r : Refusal) : c.observe q ≠ .refused r := by
  cases q <;> simp [observe]

theorem Performs.respell {c : ScopeChain α} {act act' : Action α} {s : Step α} (h : Performs c act s)
    (hr : act.Respells act') : ∃ s', Performs c act' s' ∧ Step.Alike act act' s s' := by
  cases hr with
  | push =>
    refine ⟨s, h, .same ?_⟩
    cases h <;> simp
  | pop =>
    refine ⟨s, h, .same ?_⟩
    cases h <;> simp
  | @declare m n hk a =>
    -- the enclosing frames hold both names or none of them
    have hcontains : ∀ t : SymbolTable α, t.contains m = t.contains n :=
      SymbolTable.contains_eq_of_canonicalKey_eq hk
    cases h with
    | declares hfree =>
      simp only [hcontains] at hfree
      refine ⟨_, .declares hfree, ?_⟩
      rw [setCurrent_eq_of_canonicalKey_eq hk, Event.ofBinding_eq_of_canonicalKey_eq hk]
      exact .same (by simp)
    | shadows hshadow =>
      simp only [hcontains] at hshadow
      exact ⟨_, .shadows hshadow, .shadowing m n a c⟩
  | assign hk a =>
    cases h
    refine ⟨_, .assigns _ a, ?_⟩
    rw [assign_eq_of_canonicalKey_eq hk, Event.ofBinding_eq_of_canonicalKey_eq hk]
    exact .same (by simp)
  | setCurrent hk a =>
    cases h
    refine ⟨_, .sets _ a, ?_⟩
    rw [setCurrent_eq_of_canonicalKey_eq hk, Event.ofBinding_eq_of_canonicalKey_eq hk]
    exact .same (by simp)
  | observe hq =>
    cases h
    refine ⟨_, .observes _, ?_⟩
    rw [hq.observe_eq]
    exact .same fun name => observe_ne_refused c _ _

theorem alike_perform {act act' : Action α} (h : act.Respells act') (c : ScopeChain α) :
    Step.Alike act act' (c.perform act) (c.perform act') := by
  obtain ⟨s', hs', halike⟩ := (performs_perform c act).respell h
  rw [performs_iff.mp hs']
  exact halike

theorem alike_steps {acts acts' : List (Action α)} (h : List.Forall₂ Action.Respells acts acts') :
    ∀ c : ScopeChain α, (c.run acts).chain = (c.run acts').chain ∧
      List.Forall₂ (fun x x' => Step.Alike x.1 x'.1 x.2 x'.2) (acts.zip (c.steps acts)) (acts'.zip (c.steps acts')) := by
  induction h with
  | nil => intro c; exact ⟨rfl, .nil⟩
  | @cons act act' acts acts' hact _ ih =>
    intro c
    have hstep := alike_perform hact c
    obtain ⟨hchain, hsteps⟩ := ih (c.perform act).chain
    rw [chain_run_cons, chain_run_cons, steps, steps, List.zip_cons_cons, List.zip_cons_cons, ← hstep.chain_eq]
    exact ⟨hchain, .cons hstep hsteps⟩

/-- **Only the canonical key matters.** From any chain, two runs whose actions differ in the spelling of
names have the same chain after every action. Each two of their steps have the same answer and the same
events, or are refusals of a declaration, where the answer and the event have the name as each run
spells it. -/
theorem run_of_respelled {acts acts' : List (Action α)} (h : List.Forall₂ Action.Respells acts acts')
    (c : ScopeChain α) :
    (∀ n, (c.run (acts.take n)).chain = (c.run (acts'.take n)).chain) ∧
    List.Forall₂ (fun x x' => Step.Alike x.1 x'.1 x.2 x'.2) (acts.zip (c.steps acts)) (acts'.zip (c.steps acts')) :=
  ⟨fun n => (alike_steps (List.forall₂_take n h) c).1, (alike_steps h c).2⟩

/-- A refused declaration, an assignment from an inner scope and questions, in two spellings. -/
theorem run_of_respelled_strict :
    let acts : List (Action (Option Nat)) := [.declare "Größe" (some 1), .push, .declare "größe" none,
      .assign "GRÖßE" (some 2), .observe (.global (.get "größe")), .pop]
    let acts' : List (Action (Option Nat)) := [.declare "GRÖßE" (some 1), .push, .declare "gRÖßE" none,
      .assign "größe" (some 2), .observe (.global (.get "Größe")), .pop]
    let c : ScopeChain (Option Nat) := new .strict
    List.Forall₂ Action.Respells acts acts' ∧ (c.run acts).chain = (c.run acts').chain ∧
      (c.run acts).events[2]? = some (.shadowingRefused "größe") ∧
      (c.run acts').events[2]? = some (.shadowingRefused "gRÖßE") := by
  intro acts acts' c
  have h : List.Forall₂ Action.Respells acts acts' :=
    .cons (.declare (by decide +kernel) _) <| .cons .push <| .cons (.declare (by decide +kernel) _) <|
      .cons (.assign (by decide +kernel) _) <| .cons (.observe (.global (.get (by decide +kernel)))) <|
      .cons .pop .nil
  exact ⟨h, (run_of_respelled h c).1 6, by decide +kernel, by decide +kernel⟩

end ScopeChain

end

end StyleScope
