import StyleScope.Value.Basic

/-!
# Values inside values

Induction through the items of lists, and properties of a value and of all values inside it.
-/

namespace StyleScope.Value

/-- Induction on a value, where a list may use what holds of its items. -/
theorem induction_items {motive : Value → Prop} (null : motive .null) (bool : ∀ b, motive (.bool b))
    (number : ∀ x, motive (.number x)) (string : ∀ s, motive (.string s))
    (color : ∀ literal, motive (.color literal))
    (dimension : ∀ size unit, motive (.dimension size unit))
    (list : ∀ items, (∀ v ∈ items, motive v) → motive (.list items)) (v : Value) : motive v :=
  @Value.rec motive (fun items => ∀ v ∈ items, motive v) null bool number string color dimension list
    nofun (fun _ _ hv hvs => List.forall_mem_cons.mpr ⟨hv, hvs⟩) v

mutual
/-- `P` holds of the value and of every value inside it. -/
def Everywhere (P : Value → Prop) : Value → Prop
  | .list items => P (.list items) ∧ ItemsEverywhere P items
  | v => P v
def ItemsEverywhere (P : Value → Prop) : List Value → Prop
  | [] => True
  | v :: vs => v.Everywhere P ∧ ItemsEverywhere P vs
end

theorem itemsEverywhere_iff {P : Value → Prop} {items : List Value} :
    ItemsEverywhere P items ↔ ∀ v ∈ items, v.Everywhere P := by
  induction items with
  | nil => simp [ItemsEverywhere]
  | cons v vs ih => rw [ItemsEverywhere, ih, List.forall_mem_cons]

theorem Everywhere.self {P : Value → Prop} {v : Value} (h : v.Everywhere P) : P v := by
  cases v with
  | list items => exact h.1
  | _ => exact h

theorem Everywhere.of_mem {P : Value → Prop} {items : List Value} (h : (list items).Everywhere P) :
    ∀ v ∈ items, v.Everywhere P :=
  itemsEverywhere_iff.mp h.2

end StyleScope.Value
