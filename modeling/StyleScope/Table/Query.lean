import StyleScope.Table.Basic

/-!
# Questions to a table
-/

namespace StyleScope

inductive TableQuery where
  | get (name : String)
  | isDefined (name : String)
  | contains (name : String)
  | lookup (name : String)
  | size
  | isEmpty
  | entries
  | remaining (taken : Nat)

/-- What a question shows. -/
inductive Observation (α : Type u) where
  | value (a? : Option α)
  | flag (b : Bool)
  | outcome (l : Lookup α)
  | count (n : Nat)
  /-- A number that is not below `least` and not above `greatest`. -/
  | bounds (least greatest : Nat)
  | entries (es : List (String × α))

/-- The answer of a table to a question. -/
def SymbolTable.observe {α : Type u} [Presence α] (t : SymbolTable α) : TableQuery → Observation α
  | .get name => .value (t.get? name)
  | .isDefined name => .flag (t.isDefined name)
  | .contains name => .flag (t.contains name)
  | .lookup name => .outcome (t.lookup name)
  | .size => .count t.size
  | .isEmpty => .flag t.isEmpty
  | .entries => .entries t.entries
  | .remaining taken => .bounds (t.remaining taken) (t.remaining taken)

end StyleScope
