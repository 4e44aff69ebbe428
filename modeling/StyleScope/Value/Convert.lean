import StyleScope.Value.Basic

/-!
# Values from data

Booleans, numbers, 32-bit integers and texts have a value each; a missing datum is null, and a list
of data is the list of their values.
-/

namespace StyleScope

/-- Data that stand for a value. -/
class ToValue (α : Type u) where
  toValue : α → Value

export ToValue (toValue)

instance : ToValue Value := ⟨id⟩

instance : ToValue Bool := ⟨.bool⟩

instance : ToValue Binary64 := ⟨.number⟩

instance : ToValue Int32 := ⟨fun n => .number (.ofInt32 n)⟩

instance : ToValue String := ⟨.string⟩

instance {α : Type u} [ToValue α] : ToValue (Option α) := ⟨fun a? => a?.elim .null toValue⟩

instance {α : Type u} [ToValue α] : ToValue (List α) := ⟨fun as => .list (as.map toValue)⟩

namespace Value

/-- The integers from `first` on, below `limit`, as values. -/
def numbers (first limit : Int32) : List Value :=
  (List.range (limit.toInt - first.toInt).toNat).map fun k : Nat =>
    toValue (Int32.ofInt (first.toInt + k))

/-- A list of values with one more at its end. -/
def push (items : List Value) (v : Value) : List Value :=
  items ++ [v]

/-- A list of values with each of `vs` pushed in turn. -/
def pushAll (items vs : List Value) : List Value :=
  items ++ vs

theorem pushAll_eq_foldl_push (items vs : List Value) : pushAll items vs = vs.foldl push items := by
  induction vs generalizing items with
  | nil => simp [pushAll]
  | cons v vs ih => simp [pushAll, push, ← ih]

end Value

end StyleScope
