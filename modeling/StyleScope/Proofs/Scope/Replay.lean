import StyleScope.Proofs.Scope.NoShadowing
import StyleScope.Proofs.Scope.Resolution
import StyleScope.Proofs.Scope.Depth

/-!
# Replaying the log

The events of a run say how deep the chain is, after each change and at the end, and name the key of
every table write. They do not say which frame was written. Still, where shadowing is denied, the keys of
all frames can be read off them: a key that some frame holds is bound anew there, and any other key goes
to the innermost frame. An invariant of log and chain carries both results (`run_log_invariant`).
-/

namespace StyleScope

namespace Event

def depth? : Event → Option Nat
  | .enterScope depth | .exitScope depth => some depth
  | _ => none

def boundKey? : Event → Option String
  | .bind key => some key
  | _ => none

/-- The depth after the event, if it was `depth` before. -/
def replayDepth (depth : Int) : Event → Int
  | .enterScope _ => depth + 1
  | .exitScope _ => depth - 1
  | _ => depth

/-- The key sets of the open scopes after the event, the innermost first, if they were `live` before. -/
def replayKeys (live : List (Finset String)) : Event → List (Finset String)
  | .enterScope _ => ∅ :: live
  | .exitScope _ => live.tail
  | .bind key => if ∃ ks ∈ live, key ∈ ks then live else live.modifyHead (insert key)
  | _ => live

end Event

def replayedDepth (log : List Event) : Int :=
  log.foldl Event.replayDepth 1

def replayedKeys (log : List Event) : List (Finset String) :=
  log.foldl Event.replayKeys [∅]

/-- What an action with this answer has written. -/
def Action.write? {α : Type u} : Action α → Answer α → Option (String × α)
  | .declare name a, .done | .assign name a, .done | .setCurrent name a, .done => some (name, a)
  | _, _ => none

theorem replayedDepth_append (log es : List Event) :
    replayedDepth (log ++ es) = es.foldl Event.replayDepth (replayedDepth log) :=
  List.foldl_append

theorem replayedKeys_append (log es : List Event) :
    replayedKeys (log ++ es) = es.foldl Event.replayKeys (replayedKeys log) :=
  List.foldl_append

namespace ScopeChain

variable {α : Type u}

def writes [Presence α] (c : ScopeChain α) (acts : List (Action α)) : List (String × α) :=
  (acts.zip (c.run acts).answers).filterMap fun x => x.1.write? x.2

/-- From `c` to `d` a single table was written, or else none: at most a scope was opened or closed. -/
def Wrote (c d : ScopeChain α) : Option (String × α) → Prop
  | some (name, a) => ∃ inner t outer, c.frames = inner ++ t :: outer ∧ d.frames = inner ++ t.set name a :: outer
  | none => d.frames = c.frames ∨ d.frames = .empty :: c.frames ∨ d.frames = c.frames.tail

/-- The replayed key sets are those of the frames. -/
def HoldsKeys (c : ScopeChain α) (live : List (Finset String)) : Prop :=
  live.map (fun ks : Finset String => (ks : Set String)) = c.frames.map (·.keys)

section
variable [Presence α]

/-- An invariant of the log so far and the chain: what every action keeps, every run keeps. -/
theorem run_log_invariant {P : Action α → Prop} {R : List Event → ScopeChain α → Prop}
    (hstep : ∀ {log c act s}, P act → Performs c act s → R log c → R (log ++ s.events) s.chain)
    (acts : List (Action α)) : (∀ act ∈ acts, P act) → ∀ (c : ScopeChain α) (log : List Event), R log c →
      R (log ++ (c.run acts).events) (c.run acts).chain := by
  induction acts with
  | nil =>
    intro _ c log h
    simpa [run] using h
  | cons act acts ih =>
    intro hacts c log h
    rw [List.forall_mem_cons] at hacts
    have hone := hstep hacts.1 (performs_perform c act) h
    have hrest := ih hacts.2 _ _ hone
    rwa [List.append_assoc] at hrest

/-! ## Depth -/

/-- Each event tells the depth that the log up to it replays, and the whole log replays that of the chain. -/
structure TellsDepth (log : List Event) (c : ScopeChain α) : Prop where
  told : ∀ before e after (d : Nat), log = before ++ e :: after → e.depth? = some d → replayedDepth (before ++ [e]) = d
  replayed : replayedDepth log = c.depth

omit [Presence α] in
theorem TellsDepth.snoc {log : List Event} {c d : ScopeChain α} {e : Event} (h : TellsDepth log c)
    (hreplay : e.replayDepth c.depth = d.depth) (htold : ∀ n, e.depth? = some n → n = d.depth) :
    TellsDepth (log ++ [e]) d := by
  have hlast : replayedDepth (log ++ [e]) = d.depth := by
    rw [replayedDepth_append, h.replayed, List.foldl_cons, hreplay]
    rfl
  refine ⟨fun before e' after n hsplit hn => ?_, hlast⟩
  -- the event is the new one, or it stood in the log before
  rcases List.eq_nil_or_concat after with rfl | ⟨after, x, rfl⟩
  · obtain ⟨rfl, he⟩ := List.append_inj' hsplit rfl
    obtain rfl : e = e' := by simpa using he
    rw [hlast, htold n hn]
  · rw [List.concat_eq_append, ← List.cons_append, ← List.append_assoc] at hsplit
    exact h.told before e' after n (List.append_inj' hsplit rfl).1 hn

theorem Performs.tellsDepth {log : List Event} {c : ScopeChain α} {act : Action α} {s : Step α}
    (hp : Performs c act s) (h : TellsDepth log c) : TellsDepth (log ++ s.events) s.chain := by
  cases hp with
  | opens => exact h.snoc rfl (by simp [Event.depth?, depth, frames])
  | tooDeep => exact h.snoc rfl (by simp [Event.depth?])
  | closes he => exact h.snoc (by simp [Event.replayDepth, depth, he]) (by simp [Event.depth?, depth])
  | keepsGlobal => exact h.snoc rfl (by simp [Event.depth?])
  | declares => exact h.snoc rfl (by simp [Event.depth?, Event.ofBinding])
  | shadows => exact h.snoc rfl (by simp [Event.depth?])
  | assigns name a =>
    have hdepth : (c.depth : Int) = (c.assign name a).depth := by rw [depth_assign]
    exact h.snoc hdepth (by simp [Event.depth?, Event.ofBinding])
  | sets => exact h.snoc rfl (by simp [Event.depth?, Event.ofBinding])
  | observes =>
    rw [List.append_nil]
    exact h

theorem tellsDepth_run (config : ScopeConfig) (acts : List (Action α)) :
    TellsDepth ((new config : ScopeChain α).run acts).events ((new config : ScopeChain α).run acts).chain := by
  have hstart : TellsDepth [] (new config : ScopeChain α) := ⟨by simp, rfl⟩
  have hrun := run_log_invariant (P := fun _ => True) (fun _ hp h => hp.tellsDepth h) acts (by simp) _ _ hstart
  rwa [List.nil_append] at hrun

/-! ## Writes -/

theorem Performs.wrote {c : ScopeChain α} {act : Action α} {s : Step α} (h : Performs c act s) :
    c.Wrote s.chain (act.write? s.answer) := by
  cases h with
  | opens => exact Or.inr (Or.inl rfl)
  | tooDeep => exact Or.inl rfl
  | closes he =>
    refine Or.inr (Or.inr ?_)
    simp [frames, he]
  | keepsGlobal => exact Or.inl rfl
  | declares => exact ⟨[], c.current, c.enclosing, rfl, rfl⟩
  | shadows => exact Or.inl rfl
  | assigns name a =>
    obtain ⟨inner, t, outer, hc, hd, -⟩ := exists_frames_assign c name a
    exact ⟨inner, t, outer, hc, hd⟩
  | sets => exact ⟨[], c.current, c.enclosing, rfl, rfl⟩
  | observes => exact Or.inl rfl

theorem Performs.boundKeys {c : ScopeChain α} {act : Action α} {s : Step α} (h : Performs c act s) :
    s.events.filterMap Event.boundKey? = ((act.write? s.answer).map fun w => canonicalKey w.1).toList := by
  cases h <;> rfl

theorem boundKeys_run (acts : List (Action α)) : ∀ c : ScopeChain α,
    (c.run acts).events.filterMap Event.boundKey? = (c.writes acts).map fun w => canonicalKey w.1 := by
  induction acts with
  | nil => intro c; rfl
  | cons act acts ih =>
    intro c
    have hstep := (performs_perform c act).boundKeys
    have hrest := ih (c.perform act).chain
    unfold writes at hrest ⊢
    rw [answers_run_cons, List.zip_cons_cons, List.filterMap_cons]
    simp only [run, List.filterMap_append, hstep, hrest]
    cases act.write? (c.perform act).answer with
    | none => rfl
    | some w => rfl

/-! ## Keys -/

section
omit [Presence α]
variable {c d : ScopeChain α} {live : List (Finset String)}

theorem HoldsKeys.exists_mem_iff (h : c.HoldsKeys live) (name : String) :
    (∃ ks ∈ live, canonicalKey name ∈ ks) ↔ ∃ t ∈ c.frames, t.contains name = true := by
  have hmem : (∃ ks ∈ live.map (fun ks : Finset String => (ks : Set String)), canonicalKey name ∈ ks) ↔
      ∃ ks ∈ c.frames.map (·.keys), canonicalKey name ∈ ks := by
    rw [h]
  simpa [SymbolTable.contains_iff_mem_keys] using hmem

/-- A write is replayed rightly if it goes to a frame that holds the key, or to the innermost frame while
none does. -/
theorem HoldsKeys.bind {name : String} {a : α} {inner outer : List (SymbolTable α)} {t : SymbolTable α}
    (h : c.HoldsKeys live) (hc : c.frames = inner ++ t :: outer) (hd : d.frames = inner ++ t.set name a :: outer)
    (htarget : t.contains name = true ∨ inner = [] ∧ ∀ u ∈ c.frames, u.contains name = false) :
    d.HoldsKeys ((Event.ofBinding name).replayKeys live) := by
  have hlive := h.exists_mem_iff name
  unfold HoldsKeys at h ⊢
  simp only [Event.ofBinding, Event.replayKeys]
  rcases htarget with ht | ⟨rfl, hfree⟩
  · have hheld : ∃ u ∈ c.frames, u.contains name = true := ⟨t, by simp [hc], ht⟩
    rw [if_pos (hlive.mpr hheld), h, hc, hd]
    simp [SymbolTable.keys_set_of_contains ht]
  · have hnone : ¬ ∃ u ∈ c.frames, u.contains name = true := by simpa using hfree
    rw [if_neg (hnone ∘ hlive.mp), hd]
    rw [hc] at h
    cases live with
    | nil => simp at h
    | cons ks live =>
      simp only [List.nil_append, List.map_cons, List.cons.injEq] at h
      simp [SymbolTable.keys_set, h]

end

theorem Performs.holdsKeys {c : ScopeChain α} {act : Action α} {s : Step α} (hp : Performs c act s)
    (hdeny : c.config.shadowing = .deny) (hact : act.bypassesPolicy = false) {log : List Event}
    (h : c.HoldsKeys (replayedKeys log)) : s.chain.HoldsKeys (replayedKeys (log ++ s.events)) := by
  rw [replayedKeys_append]
  generalize replayedKeys log = live at h ⊢
  cases hp with
  | opens =>
    unfold HoldsKeys at h ⊢
    simp [Event.replayKeys, frames, h]
  | tooDeep => exact h
  | closes he =>
    unfold HoldsKeys at h ⊢
    rw [frames, he] at h
    simp [Event.replayKeys, frames, List.map_tail, h]
  | keepsGlobal => exact h
  | @declares name a hfree =>
    have hc : c.frames = [] ++ c.current :: c.enclosing := rfl
    refine h.bind hc rfl ?_
    -- the policy keeps the name out of the enclosing frames
    by_cases hcurrent : c.current.contains name = true
    · exact Or.inl hcurrent
    · exact Or.inr ⟨rfl, List.forall_mem_cons.mpr ⟨by simpa using hcurrent, hfree hdeny⟩⟩
  | shadows => exact h
  | assigns name a =>
    obtain ⟨inner, t, outer, hc, hd, htarget⟩ := exists_frames_assign c name a
    exact h.bind hc hd (htarget.imp_left NearestHolder.holds)
  | sets => cases hact
  | observes => exact h

theorem holdsKeys_run {config : ScopeConfig} (hdeny : config.shadowing = .deny) {acts : List (Action α)}
    (hacts : ∀ act ∈ acts, act.bypassesPolicy = false) :
    ((new config : ScopeChain α).run acts).chain.HoldsKeys
      (replayedKeys ((new config : ScopeChain α).run acts).events) := by
  have hstart : (new config : ScopeChain α).HoldsKeys [∅] := by
    simp [HoldsKeys, new, frames]
  have hrun := run_log_invariant (R := fun log c => c.config.shadowing = .deny ∧ c.HoldsKeys (replayedKeys log))
    (fun hact hp h => ⟨hp.config_eq ▸ h.1, hp.holdsKeys h.1 hact h.2⟩) acts hacts (new config) [] ⟨hdeny, hstart⟩
  rw [List.nil_append] at hrun
  exact hrun.2

/-- **The log replays the chain.** Each event of an opened or closed scope tells the depth that the log up
to it replays, and the whole log replays the depth at the end. Questions leave the log as it is. The keys
bound in the log are those of the table writes, one for each and in their order. Where shadowing is denied
and no action goes past the policy, the log replays the keys of every frame. -/
theorem run_new_log_replays (config : ScopeConfig) (acts : List (Action α)) :
    let start : ScopeChain α := new config
    let r := start.run acts
    (∀ before e after (d : Nat), r.events = before ++ e :: after → e.depth? = some d →
      replayedDepth (before ++ [e]) = d) ∧
    replayedDepth r.events = r.chain.depth ∧
    (∀ (c : ScopeChain α) (q : ScopeQuery), (c.perform (.observe q)).events = []) ∧
    r.events.filterMap Event.boundKey? = (start.writes acts).map (fun w => canonicalKey w.1) ∧
    (∀ (c : ScopeChain α) (act : Action α), c.Wrote (c.perform act).chain (act.write? (c.perform act).answer)) ∧
    (config.shadowing = .deny → (∀ act ∈ acts, act.bypassesPolicy = false) →
      (replayedKeys r.events).map (fun ks : Finset String => (ks : Set String)) = r.chain.frames.map (·.keys)) := by
  intro start r
  have hdepth := tellsDepth_run config acts
  exact ⟨hdepth.told, hdepth.replayed, fun c q => rfl, boundKeys_run acts start,
    fun c act => (performs_perform c act).wrote, fun hdeny hacts => holdsKeys_run hdeny hacts⟩

/-- A refused declaration, a key that an inner scope rebinds in the one around it, and a closed scope. -/
theorem run_new_log_replays_strict :
    let acts : List (Action (Option Nat)) := [.declare "Size" (some 1), .push, .declare "size" none,
      .assign "SIZE" (some 2), .assign "gap" none, .push, .assign "Gap" (some 3), .declare "Ink" none, .pop]
    let r := (new .strict : ScopeChain (Option Nat)).run acts
    ScopeConfig.strict.shadowing = .deny ∧ (∀ act ∈ acts, act.bypassesPolicy = false) ∧
      r.events = [.bind "size", .enterScope 2, .shadowingRefused "size", .bind "size", .bind "gap", .enterScope 3,
        .bind "gap", .bind "ink", .exitScope 2] ∧
      replayedKeys r.events = [{"gap"}, {"size"}] ∧
      (replayedKeys r.events).map (fun ks : Finset String => (ks : Set String)) = r.chain.frames.map (·.keys) := by
  intro acts r
  have hacts : ∀ act ∈ acts, act.bypassesPolicy = false := by simp [acts, Action.bypassesPolicy]
  obtain ⟨-, -, -, -, -, hkeys⟩ := run_new_log_replays .strict acts
  exact ⟨rfl, hacts, by decide +kernel, by decide +kernel, hkeys rfl hacts⟩

end

end ScopeChain

end StyleScope
