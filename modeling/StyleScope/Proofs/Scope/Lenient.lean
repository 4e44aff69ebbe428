import StyleScope.Proofs.Scope.Steps

/-!
# Lenient configurations

The configuration of a chain decides which actions are refused and nothing else. A run that one
configuration lets pass goes the same way under any configuration that refuses less: the two chains
have the same frames after every action, so every question but the one for the configuration itself
has the same answer.
-/

namespace StyleScope

/-- Wherever `config` lets an action pass, `lenient` does so too. -/
structure ScopeConfig.Relaxes (lenient config : ScopeConfig) : Prop where
  maxDepth_le : config.maxDepth ≤ lenient.maxDepth
  shadowing_eq : lenient.shadowing = .allow ∨ lenient.shadowing = config.shadowing

def Answer.refusal? {α : Type u} : Answer α → Option Refusal
  | .refused r => some r
  | _ => none

namespace ScopeChain

variable {α : Type u}

/-- The chain with the same frames under another configuration. -/
def withConfig (c : ScopeChain α) (config : ScopeConfig) : ScopeChain α :=
  { c with config }

theorem assign_withConfig (c : ScopeChain α) (config : ScopeConfig) (name : String) (a : α) :
    (c.withConfig config).assign name a = (c.assign name a).withConfig config := by
  unfold assign withConfig
  by_cases h : c.current.contains name = true
  · simp only [if_pos h]
    rfl
  · simp only [if_neg h]
    cases rebind? name a c.enclosing <;> rfl

section
variable [Presence α]

theorem observe_withConfig {q : ScopeQuery} (hq : q ≠ .config) (c : ScopeChain α) (config : ScopeConfig) :
    (c.withConfig config).observe q = c.observe q := by
  cases q with
  | config => exact absurd rfl hq
  | _ => rfl

theorem refusal?_observe (c : ScopeChain α) (q : ScopeQuery) : (c.observe q).refusal? = none := by
  cases q <;> rfl

theorem Performs.withConfig {c : ScopeChain α} {act : Action α} {s : Step α} (h : Performs c act s)
    {lenient : ScopeConfig} (hl : lenient.Relaxes c.config) (hok : s.answer.refusal? = none) :
    ∃ answer, Performs (c.withConfig lenient) act ⟨answer, s.chain.withConfig lenient, s.events⟩ ∧
      answer.refusal? = none ∧ (act ≠ .observe .config → answer = s.answer) := by
  cases h with
  | opens hlt =>
    have hle := UInt64.le_iff_toNat_le.mp hl.maxDepth_le
    exact ⟨.done, .opens (Nat.lt_of_lt_of_le hlt hle), rfl, fun _ => rfl⟩
  | tooDeep => cases hok
  | closes he => exact ⟨_, .closes he, rfl, fun _ => rfl⟩
  | keepsGlobal he => exact ⟨_, .keepsGlobal he, rfl, fun _ => rfl⟩
  | declares hfree =>
    refine ⟨.done, .declares fun hdeny => hfree ?_, rfl, fun _ => rfl⟩
    rcases hl.shadowing_eq with hallow | hsame
    · exact absurd (hallow.symm.trans hdeny) (by decide)
    · exact hsame.symm.trans hdeny
  | shadows => cases hok
  | assigns name a =>
    refine ⟨.done, ?_, rfl, fun _ => rfl⟩
    rw [← assign_withConfig]
    exact .assigns name a
  | sets name a => exact ⟨.done, .sets name a, rfl, fun _ => rfl⟩
  | observes q =>
    refine ⟨_, .observes q, refusal?_observe _ q, fun hq => observe_withConfig ?_ c lenient⟩
    rintro rfl
    exact hq rfl

theorem run_withConfig {lenient : ScopeConfig} (acts : List (Action α)) : ∀ c : ScopeChain α,
    lenient.Relaxes c.config → (∀ ans ∈ (c.run acts).answers, ans.refusal? = none) →
    let relaxed := (c.withConfig lenient).run acts
    (∀ ans ∈ relaxed.answers, ans.refusal? = none) ∧
    (∀ i : Nat, acts[i]? ≠ some (.observe .config) → relaxed.answers[i]? = (c.run acts).answers[i]?) ∧
    relaxed.chain = (c.run acts).chain.withConfig lenient ∧ relaxed.events = (c.run acts).events := by
  induction acts with
  | nil => intro c _ _; exact ⟨nofun, fun _ _ => rfl, rfl, rfl⟩
  | cons act acts ih =>
    intro c hl hok
    simp only [run, List.forall_mem_cons] at hok ⊢
    obtain ⟨answer, hstep, hanswer, hsame⟩ := (performs_perform c act).withConfig hl hok.1
    have hl' : lenient.Relaxes (c.perform act).chain.config := by
      rwa [(moves_perform c act).config_eq]
    obtain ⟨hrest, hanswers, hchain, hevents⟩ := ih _ hl' hok.2
    rw [performs_iff.mp hstep]
    refine ⟨⟨hanswer, hrest⟩, fun i hi => ?_, hchain, by rw [hevents]⟩
    cases i with
    | zero =>
      simp only [List.getElem?_cons_zero, ne_eq, Option.some.injEq] at hi ⊢
      exact hsame hi
    | succ i =>
      simp only [List.getElem?_cons_succ] at hi ⊢
      exact hanswers i hi

/-- **The configuration is only a filter.** A run that `config` lets pass is let pass by every
configuration that relaxes it, with the same answers (that of `config` itself apart), the same events and
the same frames at the end. A pop that finds only the global scope is not a refusal here; it has the
same answer in both runs. -/
theorem run_new_of_relaxes {config lenient : ScopeConfig} (hl : lenient.Relaxes config)
    (acts : List (Action α)) (hok : ∀ ans ∈ ((new config : ScopeChain α).run acts).answers, ans.refusal? = none) :
    let strict := (new config : ScopeChain α).run acts
    let relaxed := (new lenient : ScopeChain α).run acts
    (∀ ans ∈ relaxed.answers, ans.refusal? = none) ∧
    (∀ i : Nat, acts[i]? ≠ some (.observe .config) → relaxed.answers[i]? = strict.answers[i]?) ∧
    relaxed.chain.frames = strict.chain.frames ∧ relaxed.events = strict.events := by
  intro strict relaxed
  obtain ⟨hrefused, hanswers, hchain, hevents⟩ := run_withConfig acts (new config) hl hok
  have hframes : relaxed.chain.frames = (strict.chain.withConfig lenient).frames := congrArg frames hchain
  exact ⟨hrefused, hanswers, hframes, hevents⟩

/-- A run within a denying configuration and a limit of two scopes, again under the standard one. -/
theorem run_new_of_relaxes_standard :
    let acts : List (Action (Option Nat)) := [.declare "size" (some 1), .push, .declare "gap" none,
      .assign "SIZE" (some 2), .observe .config, .observe (.lookup "Size"), .pop, .pop]
    let config : ScopeConfig := ⟨2, .deny⟩
    let strict := (new config : ScopeChain (Option Nat)).run acts
    let relaxed := (new .standard : ScopeChain (Option Nat)).run acts
    ScopeConfig.standard.Relaxes config ∧ (∀ ans ∈ strict.answers, ans.refusal? = none) ∧
      relaxed.answers[5]? = strict.answers[5]? ∧ relaxed.chain.frames = strict.chain.frames := by
  intro acts config strict relaxed
  have hl : ScopeConfig.standard.Relaxes config := ⟨by decide, Or.inl rfl⟩
  have hok : ∀ ans ∈ strict.answers, ans.refusal? = none := by decide +kernel
  obtain ⟨-, hanswers, hframes, -⟩ := run_new_of_relaxes hl acts hok
  exact ⟨hl, hok, hanswers 5 (by simp [acts]), hframes⟩

end

end ScopeChain

end StyleScope
