import StyleScope.Proofs.Scope.Steps

/-!
# Depth

The limit counts the global scope, which no run closes. A chain is therefore never deeper than its
limit, or than one scope if the limit is less, and its depth is what the scopes opened and closed so far
leave of it. From there the outcome of any number of pushes or pops in a row is known.
-/

namespace StyleScope.ScopeChain

variable {α : Type u}

/-- Whether an action with this answer has opened a scope. -/
def opensScope : Action α → Answer α → Bool
  | .push, .done => true
  | _, _ => false

/-- Whether an action with this answer has closed a scope. -/
def closesScope : Action α → Answer α → Bool
  | .pop, .popped (some _) => true
  | _, _ => false

/-! ## The bound -/

theorem Moves.depth_le {c d : ScopeChain α} {act : Action α} (hm : Moves c act d)
    (h : c.depth ≤ max 1 c.config.maxDepth.toNat) : d.depth ≤ max 1 d.config.maxDepth.toNat := by
  rw [hm.config_eq]
  cases hm with
  | stays => exact h
  | opens hp =>
    obtain ⟨hlt, rfl⟩ := push_eq_ok_iff.mp hp
    exact Nat.le_trans hlt (Nat.le_max_right 1 _)
  | closes hp =>
    have := depth_pop hp
    omega
  | declares hd =>
    obtain ⟨-, rfl⟩ := declare_eq_ok_iff.mp hd
    exact h
  | assigns name a => rwa [depth_assign]
  | sets name a => exact h

/-- Within the bound, adding the global scope to the number of the others does not wrap a word. -/
theorem toNat_length_add_one {c : ScopeChain α} (h : c.depth ≤ max 1 c.config.maxDepth.toNat) :
    (UInt64.ofNat c.enclosing.length + 1).toNat = c.depth := by
  have hword : c.enclosing.length + 1 < UInt64.size :=
    Nat.lt_of_le_of_lt h (Nat.max_lt.mpr ⟨by decide, c.config.maxDepth.toNat_lt_size⟩)
  rw [UInt64.toNat_add, UInt64.toNat_ofNat_of_lt' (Nat.lt_of_succ_lt hword)]
  exact Nat.mod_eq_of_lt hword

section
variable [Presence α]

theorem depth_le_of_run_new (config : ScopeConfig) (acts : List (Action α)) :
    let c := ((new config : ScopeChain α).run acts).chain
    c.depth ≤ max 1 c.config.maxDepth.toNat :=
  run_invariant (P := fun c => c.depth ≤ max 1 c.config.maxDepth.toNat) Moves.depth_le acts _
    (Nat.le_max_left 1 _)

/-! ## Accounting -/

/-- How many of the actions satisfy `p` together with their answers. -/
def tally (p : Action α → Answer α → Bool) (c : ScopeChain α) (acts : List (Action α)) : Nat :=
  (acts.zip (c.run acts).answers).countP fun x => p x.1 x.2

theorem answers_run_cons (c : ScopeChain α) (act : Action α) (acts : List (Action α)) :
    (c.run (act :: acts)).answers = (c.perform act).answer :: ((c.perform act).chain.run acts).answers :=
  rfl

theorem tally_cons (p : Action α → Answer α → Bool) (c : ScopeChain α) (act : Action α) (acts : List (Action α)) :
    c.tally p (act :: acts) = (p act (c.perform act).answer).toNat + (c.perform act).chain.tally p acts := by
  unfold tally
  rw [answers_run_cons, List.zip_cons_cons, List.countP_cons, Nat.add_comm]
  cases p act (c.perform act).answer <;> rfl

theorem tally_replicate (p : Action α → Answer α → Bool) (act : Action α) (k : Nat) : ∀ c : ScopeChain α,
    c.tally p (List.replicate k act) = (c.run (List.replicate k act)).answers.countP (p act) := by
  induction k with
  | zero => intro c; rfl
  | succ k ih =>
    intro c
    rw [List.replicate_succ, tally_cons, ih, answers_run_cons, List.countP_cons, Nat.add_comm]
    cases p act (c.perform act).answer <;> rfl

theorem Performs.depth_eq {c : ScopeChain α} {act : Action α} {s : Step α} (h : Performs c act s) :
    s.chain.depth + (closesScope act s.answer).toNat = c.depth + (opensScope act s.answer).toNat := by
  cases h with
  | opens => rfl
  | tooDeep => rfl
  | closes he => simp [depth, he, closesScope, opensScope]
  | keepsGlobal => rfl
  | declares => rfl
  | shadows => rfl
  | assigns name a => exact depth_assign c name a
  | sets => rfl
  | observes => rfl

theorem depth_run (acts : List (Action α)) : ∀ c : ScopeChain α,
    (c.run acts).chain.depth + c.tally closesScope acts = c.depth + c.tally opensScope acts := by
  induction acts with
  | nil => intro c; rfl
  | cons act acts ih =>
    intro c
    have hstep := (performs_perform c act).depth_eq
    have hrest := ih (c.perform act).chain
    rw [chain_run_cons, tally_cons, tally_cons]
    omega

/-! ## Pushes and pops in a row -/

theorem answers_run_pushes (k : Nat) : ∀ c : ScopeChain α,
    (c.run (List.replicate k .push)).answers =
      List.replicate (min k (c.config.maxDepth.toNat - c.depth)) .done ++
        List.replicate (k - (c.config.maxDepth.toNat - c.depth)) (.refused (.depthExceeded c.config.maxDepth)) := by
  induction k with
  | zero => intro c; simp [run]
  | succ k ih =>
    intro c
    rw [List.replicate_succ, answers_run_cons]
    rcases Nat.lt_or_ge c.depth c.config.maxDepth.toNat with h | h
    · -- the new scope takes one of the places that are left
      have hroom : c.config.maxDepth.toNat - c.depth = c.config.maxDepth.toNat - (c.depth + 1) + 1 := by omega
      rw [performs_iff.mp (.opens h), ih, hroom, Nat.add_min_add_right, Nat.add_sub_add_right,
        List.replicate_succ, List.cons_append]
      rfl
    · have hfull : c.config.maxDepth.toNat - c.depth = 0 := Nat.sub_eq_zero_of_le h
      rw [performs_iff.mp (.tooDeep h), ih, hfull]
      simp [List.replicate_succ]

theorem answers_run_pops (k : Nat) : ∀ c : ScopeChain α,
    (c.run (List.replicate k .pop)).answers =
      (c.frames.take (min k (c.depth - 1))).map (fun t => .popped (some t)) ++
        List.replicate (k - (c.depth - 1)) (.popped none) := by
  induction k with
  | zero => intro c; simp [run]
  | succ k ih =>
    intro c
    rw [List.replicate_succ, answers_run_cons]
    cases he : c.enclosing with
    | nil =>
      have hglobal : c.depth - 1 = 0 := by rw [depth, he]; rfl
      rw [performs_iff.mp (.keepsGlobal he), ih, hglobal]
      simp [List.replicate_succ]
    | cons outer rest =>
      have hlocal : c.depth - 1 = rest.length + 1 := by rw [depth, he]; rfl
      have hframes : c.frames = c.current :: outer :: rest := by rw [frames, he]
      rw [performs_iff.mp (.closes he), ih, hlocal, Nat.add_min_add_right, Nat.add_sub_add_right, hframes,
        List.take_succ_cons, List.map_cons, List.cons_append]
      rfl

theorem tally_pushes (c : ScopeChain α) (k : Nat) :
    c.tally opensScope (List.replicate k .push) = min k (c.config.maxDepth.toNat - c.depth) := by
  rw [tally_replicate, answers_run_pushes, List.countP_append, List.countP_replicate, List.countP_replicate]
  rfl

theorem tally_pops (c : ScopeChain α) (k : Nat) :
    c.tally closesScope (List.replicate k .pop) = min k (c.depth - 1) := by
  rw [tally_replicate, answers_run_pops, List.countP_append, List.countP_map, List.countP_replicate]
  simp [Function.comp_def, closesScope]

end

theorem count_pushMany (k : Nat) : ∀ c : ScopeChain α,
    (pushMany k c).count = min k (c.config.maxDepth.toNat - c.depth) := by
  induction k with
  | zero => intro c; simp [pushMany]
  | succ k ih =>
    intro c
    unfold pushMany
    cases hp : c.push with
    | ok d =>
      obtain ⟨hlt, rfl⟩ := push_eq_ok_iff.mp hp
      simp only [ih, depth, List.length_cons] at hlt ⊢
      omega
    | error r =>
      obtain ⟨hle, -⟩ := push_eq_error_iff.mp hp
      simp only
      omega

theorem count_popMany (k : Nat) : ∀ c : ScopeChain α, (popMany k c).count = min k (c.depth - 1) := by
  induction k with
  | zero => intro c; simp [popMany]
  | succ k ih =>
    intro c
    unfold popMany
    cases hp : c.pop with
    | none =>
      have hdepth := pop_eq_none_iff.mp hp
      simp only [ih]
      omega
    | some p =>
      have hdepth := depth_pop hp
      have hpos : 0 < p.2.depth := Nat.succ_pos _
      simp only [ih]
      omega

/-- **Depth bound and accounting.** At the end of any run, and so at every point of it, the depth keeps
to the limit, is one more than the scopes opened less those closed, and fits a word. From there `k`
pushes succeed as long as the limit leaves room and are refused afterwards, and `k` pops hand out the
tables of the innermost scopes until only the global one is left. -/
theorem run_new_depth [Presence α] (config : ScopeConfig) (acts : List (Action α)) :
    let start : ScopeChain α := new config
    let c := (start.run acts).chain
    (1 ≤ c.depth ∧ c.depth ≤ max 1 config.maxDepth.toNat) ∧
    c.depth + start.tally closesScope acts = 1 + start.tally opensScope acts ∧
    (UInt64.ofNat c.enclosing.length + 1).toNat = c.depth ∧
    (∀ k, c.tally opensScope (List.replicate k .push) = min k (config.maxDepth.toNat - c.depth) ∧
      (pushMany k c).count = min k (config.maxDepth.toNat - c.depth) ∧
      (c.run (List.replicate k .push)).answers =
        List.replicate (min k (config.maxDepth.toNat - c.depth)) .done ++
          List.replicate (k - (config.maxDepth.toNat - c.depth)) (.refused (.depthExceeded config.maxDepth))) ∧
    (∀ k, c.tally closesScope (List.replicate k .pop) = min k (c.depth - 1) ∧
      (popMany k c).count = min k (c.depth - 1) ∧
      (c.run (List.replicate k .pop)).answers =
        (c.frames.take (min k (c.depth - 1))).map (fun t => .popped (some t)) ++
          List.replicate (k - (c.depth - 1)) (.popped none)) := by
  intro start c
  have hconfig : c.config = config := config_run acts start
  have hbound := depth_le_of_run_new (α := α) config acts
  rw [← hconfig]
  refine ⟨⟨Nat.succ_pos _, hbound⟩, depth_run acts start, toNat_length_add_one hbound, fun k => ?_, fun k => ?_⟩
  · exact ⟨tally_pushes c k, count_pushMany k c, answers_run_pushes k c⟩
  · exact ⟨tally_pops c k, count_popMany k c, answers_run_pops k c⟩

end StyleScope.ScopeChain
