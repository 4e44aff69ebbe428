import Std.Data.ExtTreeMap
import StyleScope.Table.Lookup
import StyleScope.Text.Lowercase

/-!
# Symbol tables

A symbol table binds names to slots. Names are compared without regard to case: every operation goes
through the canonical key of a name, its lower-case form.
-/

namespace StyleScope

/-- The key under which a name is bound. -/
def canonicalKey (name : String) : String :=
  Text.lowercase name

/-- Slots by canonical key. -/
structure SymbolTable (α : Type u) where
  bindings : Std.ExtTreeMap String α

namespace SymbolTable

variable {α : Type u}

def empty : SymbolTable α :=
  ⟨∅⟩

instance [BEq α] : BEq (SymbolTable α) := ⟨fun s t => s.bindings == t.bindings⟩

/-- Binds a name, in place of what was bound to it. The absent marker is stored like any other slot. -/
def set (t : SymbolTable α) (name : String) (a : α) : SymbolTable α :=
  ⟨t.bindings.insert (canonicalKey name) a⟩

/-- The slot of a name, absent or not. -/
def slot? (t : SymbolTable α) (name : String) : Option α :=
  t.bindings[canonicalKey name]?

/-- Whether a name is bound, be it to the absent marker. -/
def contains (t : SymbolTable α) (name : String) : Bool :=
  t.bindings.contains (canonicalKey name)

/-- The number of bindings. -/
def size (t : SymbolTable α) : Nat :=
  t.bindings.size

def isEmpty (t : SymbolTable α) : Bool :=
  t.bindings.isEmpty

/-- Canonical keys with their slots, in the order of the keys. -/
def entries (t : SymbolTable α) : List (String × α) :=
  t.bindings.toList

/-- How many entries are left after the first `taken`. -/
def remaining (t : SymbolTable α) (taken : Nat) : Nat :=
  t.size - taken

section
variable [Presence α]

def lookup (t : SymbolTable α) (name : String) : Lookup α :=
  .ofSlot (t.slot? name)

/-- The value of a name that has one. -/
def get? (t : SymbolTable α) (name : String) : Option α :=
  (t.lookup name).value?

/-- Whether a name is bound to something other than the absent marker. -/
def isDefined (t : SymbolTable α) (name : String) : Bool :=
  (t.slot? name).any (!isAbsent ·)

end

/-- Inspection text of a table. Bindings have no order of their own, so only a table with at most one
of them has a text. -/
def inspect? [Inspect α] (t : SymbolTable α) : Option String :=
  if t.size ≤ 1 then
    let bindings := Inspect.mapping (t.entries.map fun (k, a) => (inspect k, inspect a))
    some (Inspect.record "SymbolTable" [("bindings", bindings)])
  else none

end SymbolTable

end StyleScope
