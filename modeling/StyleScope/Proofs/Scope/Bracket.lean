import StyleScope.Proofs.Scope.Frames

/-!
# Blocks

A scope is opened, a body runs that never closes it, and a scope is closed. The frames that were there
before keep their keys, and only an assignment reaches into them: it rebinds its name in the first of
them that holds it. The invariant splits the frames in those the block opened and those around it.
-/

namespace StyleScope.ScopeChain

variable {α : Type u}

/-- The keys of the names that the actions assign. -/
def assignedKeys (acts : List (Action α)) : Set String :=
  {k | ∃ name a, .assign name a ∈ acts ∧ canonicalKey name = k}

theorem assignedKeys_mono {acts acts' : List (Action α)} (h : ∀ act ∈ acts, act ∈ acts') :
    assignedKeys acts ⊆ assignedKeys acts' := by
  rintro k ⟨name, a, hmem, hk⟩
  exact ⟨name, a, h _ hmem, hk⟩

theorem assignedKeys_eq_empty {acts : List (Action α)} (h : ∀ name a, .assign name a ∉ acts) :
    assignedKeys acts = ∅ := by
  ext k
  simp only [assignedKeys, Set.mem_ofPred_eq, Set.mem_empty_iff_false, iff_false]
  rintro ⟨name, a, hmem, -⟩
  exact h name a hmem

theorem eq_of_frames {c d : ScopeChain α} (hf : c.frames = d.frames) (hc : c.config = d.config) : c = d := by
  obtain ⟨current, enclosing, config⟩ := c
  obtain ⟨current', enclosing', config'⟩ := d
  simp only [frames, List.cons.injEq] at hf
  obtain ⟨rfl, rfl⟩ := hf
  obtain rfl := hc
  rfl

theorem exists_pop {c : ScopeChain α} (h : 1 < c.depth) : ∃ t d, c.pop = some (t, d) := by
  cases hp : c.pop with
  | none =>
    have := pop_eq_none_iff.mp hp
    omega
  | some p => exact ⟨p.1, p.2, rfl⟩

section
variable {c d : ScopeChain α} {inner outer : List (SymbolTable α)}

theorem frames_setCurrent_append (hc : c.frames = inner ++ outer) (hin : inner ≠ []) (name : String) (a : α) :
    ∃ inner', (c.setCurrent name a).frames = inner' ++ outer ∧ inner' ≠ [] := by
  cases inner with
  | nil => exact absurd rfl hin
  | cons t inner =>
    rw [frames, List.cons_append, List.cons.injEq] at hc
    refine ⟨c.current.set name a :: inner, ?_, List.cons_ne_nil _ _⟩
    rw [frames_setCurrent, hc.2, List.cons_append]

theorem frames_assign_append (hc : c.frames = inner ++ outer) (hin : inner ≠ []) (name : String) (a : α) :
    ∃ inner' outer', (c.assign name a).frames = inner' ++ outer' ∧ inner' ≠ [] ∧
      Reassigned {canonicalKey name} outer outer' := by
  rw [frames_assign, hc, rebind?_append]
  cases hi : rebind? name a inner with
  | some inner' =>
    refine ⟨inner', outer, rfl, ?_, Reassigned.refl _ _⟩
    intro hnil
    have hlen := (reassigned_rebind? hi).length_eq
    rw [hnil] at hlen
    exact hin (List.eq_nil_of_length_eq_zero hlen.symm)
  | none =>
    cases ho : rebind? name a outer with
    | some outer' => exact ⟨inner, outer', rfl, hin, reassigned_rebind? ho⟩
    | none =>
      obtain ⟨inner', hframes, hne⟩ := frames_setCurrent_append hc hin name a
      exact ⟨inner', outer, hframes, hne, Reassigned.refl _ _⟩

theorem Moves.frames_append {act : Action α} (hm : Moves c act d) (hc : c.frames = inner ++ outer)
    (hin : inner ≠ []) (hdeep : outer.length < d.depth) :
    ∃ inner' outer', d.frames = inner' ++ outer' ∧ inner' ≠ [] ∧
      Reassigned (assignedKeys [act]) outer outer' := by
  cases hm with
  | stays => exact ⟨inner, outer, hc, hin, Reassigned.refl _ _⟩
  | opens hp =>
    refine ⟨.empty :: inner, outer, ?_, List.cons_ne_nil _ _, Reassigned.refl _ _⟩
    rw [frames_push hp, hc, List.cons_append]
  | closes hp =>
    cases inner with
    | nil => exact absurd rfl hin
    | cons t inner =>
      rw [frames_pop hp, List.cons_append, List.cons.injEq] at hc
      refine ⟨inner, outer, hc.2, ?_, Reassigned.refl _ _⟩
      -- an empty rest would mean that the block itself was closed
      rintro rfl
      rw [← length_frames, hc.2] at hdeep
      simp at hdeep
  | declares hd =>
    obtain ⟨-, rfl⟩ := declare_eq_ok_iff.mp hd
    obtain ⟨inner', hframes, hne⟩ := frames_setCurrent_append hc hin _ _
    exact ⟨inner', outer, hframes, hne, Reassigned.refl _ _⟩
  | assigns name a =>
    obtain ⟨inner', outer', hframes, hne, hre⟩ := frames_assign_append hc hin name a
    refine ⟨inner', outer', hframes, hne, hre.mono ?_⟩
    rintro k rfl
    exact ⟨name, a, List.mem_singleton_self _, rfl⟩
  | sets name a =>
    obtain ⟨inner', hframes, hne⟩ := frames_setCurrent_append hc hin name a
    exact ⟨inner', outer, hframes, hne, Reassigned.refl _ _⟩

end

section
variable [Presence α]

theorem run_frames_append (acts : List (Action α)) : ∀ {c : ScopeChain α} {inner outer : List (SymbolTable α)},
    c.frames = inner ++ outer → inner ≠ [] → (∀ n, outer.length < (c.run (acts.take n)).chain.depth) →
    ∃ inner' outer', (c.run acts).chain.frames = inner' ++ outer' ∧ inner' ≠ [] ∧
      Reassigned (assignedKeys acts) outer outer' := by
  induction acts with
  | nil => intro c inner outer hc hin _; exact ⟨inner, outer, hc, hin, Reassigned.refl _ _⟩
  | cons act acts ih =>
    intro c inner outer hc hin hdeep
    have hstep : outer.length < (c.perform act).chain.depth := hdeep 1
    obtain ⟨inner₁, outer₁, hc₁, hin₁, hre₁⟩ := (moves_perform c act).frames_append hc hin hstep
    obtain ⟨inner₂, outer₂, hc₂, hin₂, hre₂⟩ := ih hc₁ hin₁ fun n => by
      rw [hre₁.length_eq]
      exact hdeep (n + 1)
    refine ⟨inner₂, outer₂, hc₂, hin₂, ?_⟩
    refine (hre₁.mono (assignedKeys_mono ?_)).trans (hre₂.mono (assignedKeys_mono ?_))
    · exact fun act' h => List.mem_cons.mpr (Or.inl (List.mem_singleton.mp h))
    · exact fun act' h => List.mem_cons_of_mem _ h

/-- **Block bracketing.** After the body and one more pop, the frames of `s` are found again below the
scopes that the body left open, with the same keys, and rebound only where the body assigns. A body
that left none open gives back the depth of `s`, and `s` itself if it assigns nothing. -/
theorem pop_run_push {s d : ScopeChain α} (hpush : s.push = .ok d) (body : List (Action α))
    (hdeep : ∀ n, s.depth + 1 ≤ (d.run (body.take n)).chain.depth) :
    ∃ t r opened outer, (d.run body).chain.pop = some (t, r) ∧ r.config = s.config ∧
      r.frames = opened ++ outer ∧ opened.length + (s.depth + 1) = (d.run body).chain.depth ∧
      Reassigned (assignedKeys body) s.frames outer ∧
      ((∀ name a, .assign name a ∉ body) → outer = s.frames) ∧
      ((d.run body).chain.depth = s.depth + 1 →
        r.depth = s.depth ∧ r.frames = outer ∧ ((∀ name a, .assign name a ∉ body) → r = s)) := by
  have hd : d.frames = [.empty] ++ s.frames := frames_push hpush
  obtain ⟨inner, outer, hframes, hin, hre⟩ := run_frames_append body hd (List.cons_ne_nil _ _) hdeep
  have hend : s.depth + 1 ≤ (d.run body).chain.depth := by
    have := hdeep body.length
    rwa [List.take_length] at this
  obtain ⟨t, r, hpop⟩ : ∃ t r, (d.run body).chain.pop = some (t, r) := exists_pop (by
    have : 0 < s.depth := Nat.succ_pos _
    omega)
  cases inner with
  | nil => exact absurd rfl hin
  | cons t' opened =>
    rw [frames_pop hpop, List.cons_append, List.cons.injEq] at hframes
    have hconfig : r.config = s.config := by
      rw [config_pop hpop, config_run, config_push hpush]
    have hdepth : opened.length + (s.depth + 1) = (d.run body).chain.depth := by
      have hr : r.depth = opened.length + outer.length := by
        rw [← length_frames, hframes.2, List.length_append]
      have houter : outer.length = s.depth := by rw [hre.length_eq, length_frames]
      rw [depth_pop hpop]
      omega
    have hkept : (∀ name a, .assign name a ∉ body) → outer = s.frames := by
      intro hnone
      rw [assignedKeys_eq_empty hnone] at hre
      exact hre.eq_of_written_empty
    refine ⟨t, r, opened, outer, hpop, hconfig, hframes.2, hdepth, hre, hkept, fun hclosed => ?_⟩
    have hopened : opened = [] := List.eq_nil_of_length_eq_zero (by omega)
    have hr : r.frames = outer := by rw [hframes.2, hopened, List.nil_append]
    refine ⟨?_, hr, fun hnone => eq_of_frames (hr.trans (hkept hnone)) hconfig⟩
    have := depth_pop hpop
    omega

/-- A block that rebinds a name around it, and hides it in a nested scope of its own. -/
theorem pop_run_push_nested :
    let s : ScopeChain (Option Nat) := (new .standard).setCurrent "size" (some 1)
    let d : ScopeChain (Option Nat) := ⟨.empty, s.frames, s.config⟩
    let body : List (Action (Option Nat)) := [.assign "SIZE" (some 2), .push, .declare "size" none, .pop]
    s.push = .ok d ∧ (∀ n, s.depth + 1 ≤ (d.run (body.take n)).chain.depth) ∧
      ∃ t r, (d.run body).chain.pop = some (t, r) ∧ r.depth = s.depth ∧
        Reassigned (assignedKeys body) s.frames r.frames := by
  intro s d body
  have hpush : s.push = .ok d := rfl
  have hdeep : ∀ n, s.depth + 1 ≤ (d.run (body.take n)).chain.depth := by
    intro n
    rcases n with _ | _ | _ | _ | n
    · decide +kernel
    · decide +kernel
    · decide +kernel
    · decide +kernel
    · rw [List.take_of_length_le (by simp [body])]
      decide +kernel
  obtain ⟨t, r, opened, outer, hpop, -, -, -, hre, -, hclosed⟩ := pop_run_push hpush body hdeep
  obtain ⟨hdepth, hr, -⟩ := hclosed (by decide +kernel)
  exact ⟨hpush, hdeep, t, r, hpop, hdepth, hr ▸ hre⟩

/-- A body that opens a scope and leaves it open: one pop does not get back to the depth of `s`. -/
theorem depth_pop_run_push_ne :
    ¬ ∀ (s d : ScopeChain Value) (body : List (Action Value)), s.push = .ok d →
      (∀ n, s.depth + 1 ≤ (d.run (body.take n)).chain.depth) →
      ∀ t r, (d.run body).chain.pop = some (t, r) → r.depth = s.depth := by
  intro h
  have hdeep : ∀ n, 2 ≤ ((⟨.empty, [.empty], .standard⟩ : ScopeChain Value).run
      (List.take n [.push])).chain.depth := by
    intro n
    cases n with
    | zero => decide
    | succ n => rw [List.take_succ_cons, List.take_nil]; decide
  have hdepth := h (new .standard) _ [.push] rfl hdeep _ _ rfl
  cases hdepth

end

end StyleScope.ScopeChain
