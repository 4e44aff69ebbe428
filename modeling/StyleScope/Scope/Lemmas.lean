import StyleScope.Scope.Run
import StyleScope.Table.Lemmas

/-!
# Chains through their frames

Opening a scope puts an empty table in front of the frames, and closing one takes the first table away.
-/

namespace StyleScope.ScopeChain

variable {α : Type u}

@[simp] theorem length_frames (c : ScopeChain α) : c.frames.length = c.depth :=
  rfl

theorem push_eq_ok_iff {c d : ScopeChain α} :
    c.push = .ok d ↔ c.depth < c.config.maxDepth.toNat ∧
      d = { c with current := .empty, enclosing := c.current :: c.enclosing } := by
  unfold push
  by_cases h : c.config.maxDepth.toNat ≤ c.depth
  · simp [h, Nat.not_lt.mpr h]
  · simp [h, Nat.lt_of_not_le h, eq_comm]

theorem frames_push {c d : ScopeChain α} (h : c.push = .ok d) : d.frames = .empty :: c.frames := by
  rw [(push_eq_ok_iff.mp h).2]
  rfl

theorem frames_pop {c d : ScopeChain α} {t : SymbolTable α} (h : c.pop = some (t, d)) :
    c.frames = t :: d.frames := by
  unfold pop at h
  cases he : c.enclosing with
  | nil => simp [he] at h
  | cons outer rest =>
    simp only [he, Option.some.injEq, Prod.mk.injEq] at h
    obtain ⟨rfl, rfl⟩ := h
    simp [frames, he]

theorem pop_eq_none_iff {c : ScopeChain α} : c.pop = none ↔ c.depth = 1 := by
  unfold pop depth
  cases c.enclosing <;> simp

end StyleScope.ScopeChain
