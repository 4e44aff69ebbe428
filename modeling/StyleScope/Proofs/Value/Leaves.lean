import StyleScope.Proofs.Value.Nested
import StyleScope.Value.Text

/-!
# Plain text as a join of leaves

A list is written without brackets, and so are the lists in it. What remains of its structure is the
sequence of its leaves, in which an empty list counts as one empty text: the plain text is their join.
So bracketing some neighbours to a list of their own cannot be seen in it.
-/

namespace StyleScope.Value

mutual
/-- The texts at the leaves, from left to right. -/
def leaves : Value → List String
  | .list [] => [""]
  | .list (v :: vs) => v.leaves ++ itemLeaves vs
  | v => [v.text]
def itemLeaves : List Value → List String
  | [] => []
  | v :: vs => v.leaves ++ itemLeaves vs
end

/-- The second value is the first one with some neighbours in one of its lists put into a list of their own,
which takes their place. -/
inductive Grouped : Value → Value → Prop
  | here (before group after : List Value) : group ≠ [] →
      Grouped (.list (before ++ group ++ after)) (.list (before ++ .list group :: after))
  | within (before : List Value) {v w : Value} (after : List Value) : Grouped v w →
      Grouped (.list (before ++ v :: after)) (.list (before ++ w :: after))

/-! ## Leaves -/

theorem itemLeaves_eq_flatMap (vs : List Value) : itemLeaves vs = vs.flatMap leaves := by
  induction vs with
  | nil => rfl
  | cons v vs ih => rw [itemLeaves, ih, List.flatMap_cons]

theorem leaves_list {items : List Value} (h : items ≠ []) : (list items).leaves = items.flatMap leaves := by
  cases items with
  | nil => exact absurd rfl h
  | cons v vs => rw [leaves, itemLeaves_eq_flatMap, List.flatMap_cons]

theorem leaves_ne_nil (v : Value) : v.leaves ≠ [] := by
  induction v using induction_items with
  | list items ih =>
    cases items with
    | nil => simp [leaves]
    | cons v vs =>
      rw [leaves]
      exact List.append_ne_nil_of_left_ne_nil (ih v List.mem_cons_self) _
  | _ => simp [leaves]

theorem Grouped.leaves_eq {v w : Value} (h : Grouped v w) : v.leaves = w.leaves := by
  induction h with
  | here before group after hgroup =>
    rw [leaves_list (by simp [hgroup]), leaves_list (by simp)]
    simp only [List.flatMap_append, List.flatMap_cons, leaves_list hgroup, List.append_assoc]
  | within before after _ ih =>
    rw [leaves_list (by simp), leaves_list (by simp)]
    simp only [List.flatMap_append, List.flatMap_cons, ih]

/-! ## Texts -/

theorem flatMap_leaves_ne_nil {items : List Value} (h : items ≠ []) : items.flatMap leaves ≠ [] := by
  rw [← leaves_list h]
  exact leaves_ne_nil _

theorem intercalate_texts {items : List Value} (h : ∀ v ∈ items, v.text = ", ".intercalate v.leaves) :
    ", ".intercalate (texts items) = ", ".intercalate (items.flatMap leaves) := by
  induction items with
  | nil => rfl
  | cons v vs ih =>
    obtain ⟨hv, hvs⟩ := List.forall_mem_cons.mp h
    rw [texts, List.flatMap_cons]
    by_cases hnil : vs = []
    · subst hnil
      simp [texts, hv]
    · have htexts : texts vs ≠ [] := by simpa [texts_eq_map] using hnil
      rw [String.intercalate_cons_of_ne_nil htexts, ih hvs, hv,
        String.intercalate_append_of_ne_nil (leaves_ne_nil v) (flatMap_leaves_ne_nil hnil)]

theorem text_eq_intercalate_leaves (v : Value) : v.text = ", ".intercalate v.leaves := by
  induction v using induction_items with
  | list items ih =>
    rw [text, intercalate_texts ih]
    by_cases hnil : items = []
    · subst hnil
      simp [leaves]
    · rw [leaves_list hnil]
  | _ => simp [leaves]

/-- **The plain text is the flat join of the leaves,** and grouping neighbours at any depth does not
change it. -/
theorem text_joins_leaves_and_ignores_grouping :
    (∀ v : Value, v.text = ", ".intercalate v.leaves) ∧ ∀ v w : Value, Grouped v w → v.text = w.text := by
  refine ⟨text_eq_intercalate_leaves, fun v w h => ?_⟩
  rw [text_eq_intercalate_leaves v, text_eq_intercalate_leaves w, h.leaves_eq]

/-- In the list inside a list, an empty list and its neighbour are grouped. -/
theorem text_joins_leaves_and_ignores_grouping_inner :
    let v := list [string "a", list [null, list [], bool true]]
    let w := list [string "a", list [null, list [list [], bool true]]]
    Grouped v w ∧ v.text = w.text ∧ w.text = "a, null, , true" := by
  intro v w
  have h : Grouped v w := .within [string "a"] [] (.here [null] [list [], bool true] [] (by simp))
  exact ⟨h, text_joins_leaves_and_ignores_grouping.2 v w h, by decide⟩

end StyleScope.Value
