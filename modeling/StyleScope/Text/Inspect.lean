import StyleScope.Text.Quoted

/-!
# Inspection text

The text of a datum for diagnostics: it names the parts of a record and quotes every text.
-/

namespace StyleScope

/-- Data with an inspection text. -/
class Inspect (α : Type u) where
  inspect : α → String

export Inspect (inspect)

namespace Inspect

/-- A constructor with one argument. -/
def applied (name argument : String) : String :=
  name ++ "(" ++ argument ++ ")"

/-- A record with its fields in order. -/
def record (name : String) (fields : List (String × String)) : String :=
  name ++ " \x7b " ++ ", ".intercalate (fields.map fun (f, t) => f ++ ": " ++ t) ++ " \x7d"

/-- A sequence, from the texts of its items. -/
def sequence (items : List String) : String :=
  "[" ++ ", ".intercalate items ++ "]"

/-- A mapping, from the texts of its keys and values. -/
def mapping (entries : List (String × String)) : String :=
  "\x7b" ++ ", ".intercalate (entries.map fun (k, v) => k ++ ": " ++ v) ++ "\x7d"

/-- A sequence over several lines. Each item starts a line of its own, and every line that an item
starts is indented by four blanks. -/
def lines (items : List String) : String :=
  let indented (item : String) : List Char :=
    item.toList.flatMap fun c => if c = '\n' then '\n' :: "    ".toList else [c]
  if items.isEmpty then "[]"
  else "[\n" ++ String.join (items.map fun t => "    " ++ String.ofList (indented t) ++ ",\n") ++ "]"

instance : Inspect String := ⟨Text.quoted⟩

instance : Inspect Nat := ⟨fun n => String.ofList (Nat.toDigits 10 n)⟩

instance : Inspect UInt64 := ⟨fun n => inspect n.toNat⟩

instance {α : Type u} [Inspect α] : Inspect (Option α) where
  inspect
    | none => "None"
    | some a => applied "Some" (inspect a)

instance {α : Type u} [Inspect α] : Inspect (List α) := ⟨fun l => sequence (l.map inspect)⟩

end Inspect

end StyleScope
