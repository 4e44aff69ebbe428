import StyleScope.Proofs.Scope.Refusals
import StyleScope.Scope.Stack

/-!
# Work on a stack

What each operation comes to. A write works on one frame and tells one binding: `Between` says on which
frame a focus is, and `on_assign` where an assignment goes. An operation that is refused leaves the stack as
it was; so refused actions can be left out of a run (`run_leaveOut`).
-/

namespace StyleScope

theorem SymbolTable.on_write {α : Type u} (name : String) (a : α) (t : SymbolTable α) :
    (write name a).on t = ⟨⟨⟩, t.set name a, [.ofBinding name]⟩ :=
  rfl

theorem Answer.exists_error_of_isRefusal {α : Type u} {x : Except Refusal PUnit}
    (h : (ofResult x : Answer α).isRefusal = true) : ∃ r, x = .error r := by
  cases x with
  | ok => cases h
  | error r => exact ⟨r, rfl⟩

/-! ## The search from the end -/

section
variable {β : Type u} {p : β → Bool} {xs : Array β} {n : Nat} {hn : n ≤ xs.size}

theorem lastBelow?_eq_none (h : lastBelow? p xs n hn = none) {j : Nat} (hj : j < n) : p xs[j] = false := by
  induction n with
  | zero => omega
  | succ n ih =>
    unfold lastBelow? at h
    by_cases hp : p xs[n] = true
    · simp [hp] at h
    · rw [if_neg hp] at h
      rcases Nat.lt_succ_iff_lt_or_eq.mp hj with hlt | rfl
      · exact ih h hlt
      · simpa using hp

theorem lastBelow?_eq_some {i : Fin xs.size} (h : lastBelow? p xs n hn = some i) :
    p xs[i] = true ∧ ∀ {j : Nat} (_ : i < j) (_ : j < n), p xs[j] = false := by
  induction n with
  | zero => cases h
  | succ n ih =>
    unfold lastBelow? at h
    by_cases hp : p xs[n] = true
    · rw [if_pos hp] at h
      obtain rfl := Option.some.inj h
      exact ⟨hp, fun hij hj => absurd hj (Nat.not_lt.mpr hij)⟩
    · rw [if_neg hp] at h
      obtain ⟨hi, hfree⟩ := ih h
      refine ⟨hi, fun {j} hij hj => ?_⟩
      rcases Nat.lt_succ_iff_lt_or_eq.mp hj with hlt | rfl
      · exact hfree hij hlt
      · simpa using hp

end

namespace ScopeStack

variable {α : Type u}

theorem localHolder?_eq_none {s : ScopeStack α} {name : String} (h : s.localHolder? name = none) :
    ∀ t ∈ s.locals.toList.reverse, t.contains name = false := by
  intro t ht
  obtain ⟨j, hj, rfl⟩ := List.mem_iff_getElem.mp (List.mem_reverse.mp ht)
  exact lastBelow?_eq_none h hj

theorem localHolder?_eq_some {s : ScopeStack α} {name : String} {i : Fin s.locals.size}
    (h : s.localHolder? name = some i) :
    (s.atLocal i).part.contains name = true ∧
      ∀ t ∈ (s.locals.toList.drop (i + 1)).reverse, t.contains name = false := by
  obtain ⟨hi, hfree⟩ := lastBelow?_eq_some h
  refine ⟨hi, fun t ht => ?_⟩
  obtain ⟨j, hj, rfl⟩ := List.mem_iff_getElem.mp (List.mem_reverse.mp ht)
  rw [List.length_drop, Array.length_toList] at hj
  rw [List.getElem_drop]
  exact hfree (by omega) (by omega)

/-! ## The frame in focus -/

theorem frames_eq_cons (s : ScopeStack α) : s.frames = s.current :: s.enclosing := by
  unfold enclosing current frames
  rw [← Array.getLast?_toList, ← List.head?_reverse]
  cases s.locals.toList.reverse with
  | nil => rfl
  | cons t ts => rfl

theorem length_frames (s : ScopeStack α) : s.frames.length = s.depth := by
  simp [frames, depth]

/-- The focus is on the frame of `s` between `inner` and `outer`. -/
structure Between (s : ScopeStack α) (f : Focus (ScopeStack α) (SymbolTable α))
    (inner outer : List (SymbolTable α)) : Prop where
  frames_eq : s.frames = inner ++ f.part :: outer
  frames_put : ∀ t, (f.put t).frames = inner ++ t :: outer
  config_put : ∀ t, (f.put t).config = s.config

theorem Between.enclosing_eq {s : ScopeStack α} {f : Focus (ScopeStack α) (SymbolTable α)}
    {outer : List (SymbolTable α)} (h : s.Between f [] outer) : s.enclosing = outer := by
  rw [enclosing, h.frames_eq]
  rfl

theorem between_atGlobal (s : ScopeStack α) : s.Between s.atGlobal s.locals.toList.reverse [] :=
  ⟨rfl, fun _ => rfl, fun _ => rfl⟩

theorem between_atLocal (s : ScopeStack α) (i : Fin s.locals.size) :
    s.Between (s.atLocal i) (s.locals.toList.drop (i + 1)).reverse
      ((s.locals.toList.take i).reverse ++ [s.global]) := by
  have hput : ∀ t, ((s.atLocal i).put t).frames =
      (s.locals.toList.drop (i + 1)).reverse ++ t :: ((s.locals.toList.take i).reverse ++ [s.global]) := by
    intro t
    simp [atLocal, frames, List.set_eq_take_append_cons_drop]
  have hself : (s.atLocal i).put (s.atLocal i).part = s := by simp [atLocal]
  refine ⟨?_, hput, fun _ => rfl⟩
  rw [← hput, hself]

theorem between_atCurrent (s : ScopeStack α) : s.Between s.atCurrent [] s.enclosing := by
  unfold atCurrent
  split
  case isTrue h =>
    have hb := s.between_atGlobal
    rw [Array.eq_empty_of_size_eq_zero h] at hb
    rwa [hb.enclosing_eq]
  case isFalse h =>
    have hb := s.between_atLocal ⟨s.locals.size - 1, Nat.sub_one_lt h⟩
    have hlast : s.locals.toList.drop (s.locals.size - 1 + 1) = [] := by
      rw [Nat.sub_one_add_one h]
      exact List.drop_length
    rw [hlast] at hb
    rwa [hb.enclosing_eq]

theorem part_atCurrent (s : ScopeStack α) : s.atCurrent.part = s.current := by
  have hframes := s.between_atCurrent.frames_eq
  rw [frames_eq_cons] at hframes
  exact (List.cons.inj hframes).1.symm

/-! ## Operations -/

theorem on_work_write (f : Focus (ScopeStack α) (SymbolTable α)) (name : String) (a : α) (s : ScopeStack α) :
    (f.work (SymbolTable.write name a)).on s = ⟨⟨⟩, f.put (f.part.set name a), [.ofBinding name]⟩ := by
  rw [Focus.work, SymbolTable.on_write]

theorem on_push (s : ScopeStack α) : push.on s =
    if s.config.maxDepth.toNat ≤ s.depth then
      ⟨.error (.depthExceeded s.config.maxDepth), s, [.depthLimitReached s.config.maxDepth]⟩
    else ⟨.ok ⟨⟩, { s with locals := s.locals.push .empty }, [.enterScope (s.depth + 1)]⟩ := by
  unfold push
  rw [Telling.on_get_bind]
  by_cases h : s.config.maxDepth.toNat ≤ s.depth
  · rw [if_pos h, if_pos h]
    rfl
  · have hdepth : ({ s with locals := s.locals.push .empty } : ScopeStack α).depth = s.depth + 1 := by simp [depth]
    rw [if_neg h, if_neg h, ← hdepth]
    rfl

theorem on_pop (s : ScopeStack α) : pop.on s =
    match s.locals.back? with
    | some t => ⟨some t, { s with locals := s.locals.pop }, [.exitScope (s.locals.pop.size + 1)]⟩
    | none => ⟨none, s, [.exitGlobalRefused]⟩ := by
  unfold pop
  rw [Telling.on_get_bind]
  cases h : s.locals.back? with
  | some t => rfl
  | none =>
    -- the array is empty, so taking its last element away changes nothing
    have hempty := Array.back?_eq_none_iff.mp h
    have hkept : { s with locals := s.locals.pop } = s := by
      rw [hempty, Array.pop_empty, ← hempty]
    rw [Telling.on_modify_bind, hkept]
    rfl

theorem on_setCurrent (name : String) (a : α) (s : ScopeStack α) :
    (setCurrent name a).on s = ⟨⟨⟩, s.atCurrent.put (s.current.set name a), [.ofBinding name]⟩ := by
  rw [setCurrent, Telling.on_get_bind, on_work_write, part_atCurrent]

theorem on_declare (name : String) (a : α) (s : ScopeStack α) : (declare name a).on s =
    if s.config.shadowing = .deny ∧ s.enclosing.any (·.contains name) then
      ⟨.error (.shadowing name), s, [.shadowingRefused name]⟩
    else ⟨.ok ⟨⟩, s.atCurrent.put (s.current.set name a), [.ofBinding name]⟩ := by
  unfold declare
  rw [Telling.on_get_bind]
  by_cases h : s.config.shadowing = .deny ∧ s.enclosing.any (·.contains name) = true
  · rw [if_pos h, if_pos h]
    rfl
  · rw [if_neg h, if_neg h, Telling.on_bind_pure, on_work_write, part_atCurrent]

/-- An assignment writes the nearest frame that binds the name, or the innermost one if none does. -/
theorem on_assign (name : String) (a : α) (s : ScopeStack α) : ∃ f inner outer, s.Between f inner outer ∧
    (assign name a).on s = ⟨⟨⟩, f.put (f.part.set name a), [.ofBinding name]⟩ ∧
    (f.part.contains name = true ∧ (∀ t ∈ inner, t.contains name = false) ∨
      inner = [] ∧ ∀ t ∈ s.frames, t.contains name = false) := by
  unfold assign
  rw [Telling.on_get_bind]
  cases h : s.localHolder? name with
  | some i =>
    obtain ⟨hi, hfree⟩ := localHolder?_eq_some h
    exact ⟨s.atLocal i, _, _, s.between_atLocal i, on_work_write _ _ _ _, Or.inl ⟨hi, hfree⟩⟩
  | none =>
    have hfree := localHolder?_eq_none h
    by_cases hg : s.global.contains name = true
    · rw [if_pos hg]
      exact ⟨s.atGlobal, _, _, s.between_atGlobal, on_work_write _ _ _ _, Or.inl ⟨hg, hfree⟩⟩
    · rw [if_neg hg]
      refine ⟨s.atCurrent, _, _, s.between_atCurrent, on_work_write _ _ _ _, Or.inr ⟨rfl, fun t ht => ?_⟩⟩
      rcases List.mem_append.mp ht with ht | ht
      · exact hfree t ht
      · simpa [List.mem_singleton.mp ht] using hg

/-! ## Refusals -/

theorem state_push_of_error {s : ScopeStack α} {r : Refusal} (h : (push.on s).result = .error r) :
    (push.on s).state = s := by
  rw [on_push] at h ⊢
  split at h
  case isTrue hfull => rw [if_pos hfull]
  case isFalse => cases h

theorem state_pop_of_none {s : ScopeStack α} (h : (pop.on s).result = none) : (pop.on s).state = s := by
  rw [on_pop] at h ⊢
  cases hb : s.locals.back? with
  | some t => simp [hb] at h
  | none => rfl

theorem state_declare_of_error {s : ScopeStack α} {name : String} {a : α} {r : Refusal}
    (h : ((declare name a).on s).result = .error r) : ((declare name a).on s).state = s := by
  rw [on_declare] at h ⊢
  split at h
  case isTrue hshadow => rw [if_pos hshadow]
  case isFalse => cases h

section
variable [Presence α]

theorem state_perform_of_isRefusal {act : Action α} {s : ScopeStack α}
    (h : ((perform act).on s).result.isRefusal = true) : ((perform act).on s).state = s := by
  cases act with
  | push =>
    rw [perform, Telling.on_bind_pure] at h ⊢
    obtain ⟨r, hr⟩ := Answer.exists_error_of_isRefusal h
    exact state_push_of_error hr
  | pop =>
    rw [perform, Telling.on_bind_pure] at h ⊢
    cases hr : (pop.on s).result with
    | some t =>
      rw [hr] at h
      cases h
    | none => exact state_pop_of_none hr
  | declare name a =>
    rw [perform, Telling.on_bind_pure] at h ⊢
    obtain ⟨r, hr⟩ := Answer.exists_error_of_isRefusal h
    exact state_declare_of_error hr
  | assign name a => cases h
  | setCurrent name a => cases h
  | observe q => rfl

theorem on_run_cons (act : Action α) (acts : List (Action α)) (s : ScopeStack α) : (run (act :: acts)).on s =
    let first := (perform act).on s
    let rest := (run acts).on first.state
    ⟨first.result :: rest.result, rest.state, first.events ++ rest.events⟩ := by
  simp only [run, Telling.on_bind, Telling.on_pure, List.append_nil]

/-- **Refused actions leave no trace.** The marked actions of a run, all of them refused, can be left out:
the others have the same answers, and the run leaves the same stack. -/
theorem run_leaveOut (acts : List (Action α)) : ∀ (s : ScopeStack α) (marks : List Bool),
    (∀ p ∈ marks.zip ((run acts).on s).result, p.1 = true → p.2.isRefusal = true) →
    ((run (leaveOut marks acts)).on s).result = leaveOut marks ((run acts).on s).result ∧
      ((run (leaveOut marks acts)).on s).state = ((run acts).on s).state := by
  induction acts with
  | nil =>
    intro s marks _
    rw [leaveOut_nil]
    exact ⟨(leaveOut_nil marks).symm, rfl⟩
  | cons act acts ih =>
    intro s marks h
    cases marks with
    | nil => exact ⟨rfl, rfl⟩
    | cons marked marks =>
      rw [on_run_cons] at h ⊢
      rw [List.zip_cons_cons, List.forall_mem_cons] at h
      obtain ⟨hresult, hstate⟩ := ih _ marks h.2
      cases marked with
      | true =>
        have hkept := state_perform_of_isRefusal (h.1 rfl)
        rw [hkept] at hresult hstate
        simp only [leaveOut, if_true, hkept]
        exact ⟨hresult, hstate⟩
      | false =>
        simp only [leaveOut, Bool.false_eq_true, if_false, on_run_cons]
        exact ⟨by rw [hresult], hstate⟩

end

end ScopeStack

end StyleScope
