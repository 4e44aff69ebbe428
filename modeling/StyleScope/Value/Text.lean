import StyleScope.Number.Shortest
import StyleScope.Value.Basic

/-!
# Texts of values

The plain text of a value is what a style sheet would hold: a list is its items separated by commas,
without brackets at any depth. The inspection text quotes texts, marks colours and brackets lists.
-/

namespace StyleScope.Value

def boolText (b : Bool) : String :=
  if b then "true" else "false"

mutual
/-- Plain text. -/
def text : Value → String
  | .null => "null"
  | .bool b => boolText b
  | .number x => x.text
  | .string s => s
  | .color literal => literal
  | .dimension size unit => size.text ++ unit
  | .list items => ", ".intercalate (texts items)
def texts : List Value → List String
  | [] => []
  | v :: vs => v.text :: texts vs
end

mutual
/-- Inspection text. -/
def inspection : Value → String
  | .null => "null"
  | .bool b => boolText b
  | .number x => x.text
  | .string s => Text.quoted s
  | .color literal => Inspect.applied "Color" literal
  | .dimension size unit => size.text ++ unit
  | .list items => Inspect.sequence (inspections items)
def inspections : List Value → List String
  | [] => []
  | v :: vs => v.inspection :: inspections vs
end

instance : Inspect Value := ⟨inspection⟩

theorem texts_eq_map (vs : List Value) : texts vs = vs.map text := by
  induction vs with
  | nil => rfl
  | cons v vs ih => simp [texts, ih]

theorem inspections_eq_map (vs : List Value) : inspections vs = vs.map inspection := by
  induction vs with
  | nil => rfl
  | cons v vs ih => simp [inspections, ih]

end StyleScope.Value
