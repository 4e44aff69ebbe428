import StyleScope.Proofs.Scope.Bracket
import StyleScope.Proofs.Scope.Declaration
import StyleScope.Proofs.Scope.Replay
import StyleScope.Proofs.Scope.Stack
import StyleScope.Proofs.Table.History

/-!
# Stacks run as chains

A stack is read as the chain of its frames, and every chain is the reading of one stack (`chain_bijective`).
Work on the stack comes to what the chain comes to: the same answers, a stack that is read as the same
chain, the same events. `perform_simulates` says so of an action and `run_simulates` of a run. A binding is
told where a table is written, so there is one for each write: to a table (`SymbolTable.on_forM_write`) and
along a run (`boundKeys_run`).
-/

namespace StyleScope

/-- Writes to a table leave the table of their history and tell one binding each, in their order. -/
theorem SymbolTable.on_forM_write {α : Type u} (ws : List (String × α)) : ∀ t : SymbolTable α,
    (ws.forM fun w => write w.1 w.2).on t = ⟨⟨⟩, t.setAll ws, ws.map fun w => .ofBinding w.1⟩ := by
  induction ws with
  | nil => intro t; rfl
  | cons w ws ih =>
    intro t
    simp only [List.forM, Telling.on_bind, on_write, ih]
    rfl

namespace ScopeStack

variable {α : Type u}

/-- The chain of the same frames. -/
def chain (s : ScopeStack α) : ScopeChain α :=
  ⟨s.current, s.enclosing, s.config⟩

@[simp] theorem frames_chain (s : ScopeStack α) : s.chain.frames = s.frames :=
  s.frames_eq_cons.symm

@[simp] theorem config_chain (s : ScopeStack α) : s.chain.config = s.config :=
  rfl

@[simp] theorem depth_chain (s : ScopeStack α) : s.chain.depth = s.depth := by
  rw [← ScopeChain.length_frames, frames_chain, length_frames]

@[simp] theorem global_chain (s : ScopeStack α) : s.chain.global = s.global := by
  have hlast : s.chain.frames.getLast? = some s.chain.global := List.getLast?_cons
  rw [frames_chain, frames, List.getLast?_concat] at hlast
  exact (Option.some.inj hlast).symm

theorem chain_eq_iff {s : ScopeStack α} {c : ScopeChain α} :
    s.chain = c ↔ s.frames = c.frames ∧ s.config = c.config := by
  constructor
  · rintro rfl
    exact ⟨s.frames_chain.symm, rfl⟩
  · rintro ⟨hframes, hconfig⟩
    exact ScopeChain.eq_of_frames (s.frames_chain.trans hframes) hconfig

theorem chain_bijective : Function.Bijective (chain : ScopeStack α → ScopeChain α) := by
  constructor
  · rintro ⟨global, locals, config⟩ ⟨global', locals', config'⟩ h
    obtain ⟨hframes, hconfig⟩ := chain_eq_iff.mp h
    rw [frames_chain] at hframes
    obtain ⟨hlocals, hglobal⟩ := List.append_inj' hframes rfl
    simp only [List.reverse_inj, Array.toList_inj] at hlocals
    simp only [List.cons.injEq, and_true] at hglobal
    rw [hlocals, hglobal]
    exact congrArg _ hconfig
  · intro c
    refine ⟨⟨c.global, c.frames.dropLast.reverse.toArray, c.config⟩, chain_eq_iff.mpr ⟨?_, rfl⟩⟩
    simp only [frames, List.reverse_reverse]
    exact List.dropLast_append_getLast? _ List.getLast?_cons

/-! ## Operations -/

theorem chain_put {s : ScopeStack α} {f : Focus (ScopeStack α) (SymbolTable α)}
    {inner outer : List (SymbolTable α)} (h : s.Between f inner outer) {c : ScopeChain α} {t : SymbolTable α}
    (hframes : c.frames = inner ++ t :: outer) (hconfig : c.config = s.config) : (f.put t).chain = c :=
  chain_eq_iff.mpr ⟨(h.frames_put t).trans hframes.symm, (h.config_put t).trans hconfig.symm⟩

theorem chain_put_atCurrent (s : ScopeStack α) (name : String) (a : α) :
    (s.atCurrent.put (s.current.set name a)).chain = s.chain.setCurrent name a :=
  chain_put s.between_atCurrent rfl rfl

theorem chain_push (s : ScopeStack α) :
    ({ s with locals := s.locals.push .empty } : ScopeStack α).chain = ⟨.empty, s.chain.frames, s.config⟩ := by
  refine chain_eq_iff.mpr ⟨?_, rfl⟩
  rw [frames_chain]
  simp [frames, ScopeChain.frames]

theorem frames_pop {s : ScopeStack α} {t : SymbolTable α} (h : s.locals.back? = some t) :
    s.frames = t :: ({ s with locals := s.locals.pop } : ScopeStack α).frames := by
  obtain ⟨ts, hts⟩ := Array.back?_eq_some_iff.mp h
  simp [frames, hts]

theorem chain_assign (name : String) (a : α) (s : ScopeStack α) :
    ((assign name a).on s).state.chain = s.chain.assign name a := by
  obtain ⟨f, inner, outer, hb, hon, htarget⟩ := on_assign name a s
  have hc : s.chain.frames = inner ++ f.part :: outer := s.frames_chain.trans hb.frames_eq
  rw [hon]
  refine chain_put hb ?_ (ScopeChain.config_assign _ _ _)
  rcases htarget with ⟨hholds, hinner⟩ | ⟨rfl, hfree⟩
  · exact ScopeChain.frames_assign_of_first_holder hc hinner hholds a
  · have henclosing : ∀ t ∈ s.chain.enclosing, t.contains name = false :=
      fun t ht => hfree t (List.mem_of_mem_drop ht)
    obtain ⟨hcurrent, houter⟩ := List.cons.inj hc
    rw [ScopeChain.assign_eq_setCurrent henclosing, ScopeChain.frames_setCurrent, hcurrent, houter]
    rfl

section
variable [Presence α]

theorem observe_chain (s : ScopeStack α) (q : ScopeQuery) : s.chain.observe q = s.observe q := by
  have hlookup : ∀ name, s.chain.lookup name = s.lookup name := by
    intro name
    rw [ScopeChain.lookup, frames_chain, lookup]
  cases q with
  | depth => rw [ScopeChain.observe, depth_chain, observe]
  | config => rfl
  | frames => rw [ScopeChain.observe, frames_chain, observe]
  | get name => rw [ScopeChain.observe, ScopeChain.get?, hlookup, observe, get?]
  | isDefined name => rw [ScopeChain.observe, ScopeChain.isDefined, frames_chain, observe, isDefined]
  | lookup name => rw [ScopeChain.observe, hlookup, observe]
  | current q => rfl
  | global q => rw [ScopeChain.observe, global_chain, observe]

/-! ## Actions and runs -/

/-- An outcome read as a step of the chain. -/
def toStep (o : Outcome (ScopeStack α) (Answer α)) : Step α :=
  ⟨o.result, o.state.chain, o.events⟩

def toRun (o : Outcome (ScopeStack α) (List (Answer α))) : Run α :=
  ⟨o.result, o.state.chain, o.events⟩

theorem perform_simulates (act : Action α) (s : ScopeStack α) :
    toStep ((perform act).on s) = s.chain.perform act := by
  refine (ScopeChain.performs_iff.mp ?_).symm
  cases act with
  | push =>
    rw [perform, Telling.on_bind_pure, on_push]
    by_cases h : s.config.maxDepth.toNat ≤ s.depth
    · rw [if_pos h]
      exact .tooDeep (by simpa using h)
    · rw [if_neg h, toStep, chain_push, ← depth_chain]
      exact .opens (by simpa using h)
  | pop =>
    rw [perform, Telling.on_bind_pure, on_pop]
    cases h : s.locals.back? with
    | some t =>
      let d : ScopeStack α := { s with locals := s.locals.pop }
      have hframes : s.current :: s.enclosing = t :: d.current :: d.enclosing := by
        rw [← frames_eq_cons, ← frames_eq_cons]
        exact frames_pop h
      obtain ⟨rfl, henclosing⟩ := List.cons.inj hframes
      have hdepth : d.enclosing.length + 1 = d.depth := d.depth_chain
      have hcloses : s.chain.Performs .pop _ := .closes henclosing
      rw [hdepth] at hcloses
      exact hcloses
    | none =>
      refine .keepsGlobal ?_
      simp [chain, enclosing, frames, Array.back?_eq_none_iff.mp h]
  | declare name a =>
    rw [perform, Telling.on_bind_pure, on_declare]
    by_cases h : s.config.shadowing = .deny ∧ s.enclosing.any (·.contains name) = true
    · rw [if_pos h]
      exact .shadows ⟨h.1, List.any_eq_true.mp h.2⟩
    · have hok : s.chain.declare name a = .ok (s.chain.setCurrent name a) := if_neg h
      rw [if_neg h, toStep, chain_put_atCurrent]
      exact .declares (ScopeChain.declare_eq_ok_iff.mp hok).1
  | assign name a =>
    obtain ⟨f, inner, outer, -, hon, -⟩ := on_assign name a s
    rw [perform, Telling.on_bind_pure, toStep, chain_assign, hon]
    exact .assigns name a
  | setCurrent name a =>
    rw [perform, Telling.on_bind_pure, on_setCurrent, toStep, chain_put_atCurrent]
    exact .sets name a
  | observe q =>
    rw [perform, Telling.on_get_bind, Telling.on_pure, ← observe_chain]
    exact .observes q

theorem run_simulates (acts : List (Action α)) : ∀ s : ScopeStack α, toRun ((run acts).on s) = s.chain.run acts := by
  induction acts with
  | nil => intro s; rfl
  | cons act acts ih =>
    intro s
    rw [ScopeChain.run, ← perform_simulates, on_run_cons]
    simp only [toStep, ← ih]
    rfl

/-- **Stacks run as chains.** From the empty global scope on, a stack and a chain give the same answers to
all actions and tell the same events, and the frames they end with are the same. -/
theorem run_new_simulates (config : ScopeConfig) (acts : List (Action α)) :
    let o := (run acts).on (new config)
    let r := (ScopeChain.new config).run acts
    o.result = r.answers ∧ o.events = r.events ∧ o.state.frames = r.chain.frames ∧ o.state.config = r.chain.config := by
  intro o r
  have hrun : toRun o = r := run_simulates acts (new config)
  rw [← hrun]
  exact ⟨rfl, rfl, o.state.frames_chain.symm, rfl⟩

/-- One key is told for each write, in the order of the writes. -/
theorem boundKeys_run (acts : List (Action α)) (s : ScopeStack α) :
    ((run acts).on s).events.filterMap Event.boundKey? =
      ((acts.zip ((run acts).on s).result).filterMap fun x => x.1.write? x.2).map fun w => canonicalKey w.1 := by
  have h := ScopeChain.boundKeys_run acts s.chain
  rw [ScopeChain.writes, ← run_simulates] at h
  exact h

end

end ScopeStack

end StyleScope
