import StyleScope.Value.Basic
import StyleScope.Text.Inspect

/-!
# Outcomes of a lookup

A name may be bound to the absent marker. Such a binding is there, and hides what lies behind it, yet
the name has no value.
-/

namespace StyleScope

/-- Data in which some elements stand for "no value". -/
class Presence (α : Type u) where
  isAbsent : α → Bool

export Presence (isAbsent)

instance : Presence Value := ⟨Value.isNull⟩

instance {α : Type u} : Presence (Option α) := ⟨Option.isNone⟩

inductive Lookup (α : Type u) where
  /-- Nothing is bound to the name. -/
  | unbound
  /-- The name is bound to the absent marker. -/
  | empty
  | bound (a : α)
  deriving BEq, ReflBEq, LawfulBEq

namespace Lookup

variable {α : Type u}

/-- The outcome for the slot that a table holds under the name. -/
def ofSlot [Presence α] : Option α → Lookup α
  | none => .unbound
  | some a => if isAbsent a then .empty else .bound a

def value? : Lookup α → Option α
  | .bound a => some a
  | _ => none

/-- Whether anything is bound to the name. -/
def isPresent : Lookup α → Bool
  | .unbound => false
  | _ => true

instance [Inspect α] : Inspect (Lookup α) where
  inspect
    | .unbound => "Unbound"
    | .empty => "Empty"
    | .bound a => Inspect.applied "Bound" (inspect a)

end Lookup

end StyleScope
