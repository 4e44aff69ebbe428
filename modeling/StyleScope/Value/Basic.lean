import StyleScope.Kind
import StyleScope.Number.Binary64

/-!
# Values

A value is what a name can be bound to. Colours and units are kept as the text their managers accept.
Two values are equal when they have the same structure and bitwise equal numbers.
-/

namespace StyleScope

inductive Value where
  | null
  | bool (b : Bool)
  | number (x : Binary64)
  | string (s : String)
  /-- A colour, as its literal was written. -/
  | color (literal : String)
  /-- A number with the suffix of its unit. -/
  | dimension (size : Binary64) (unit : String)
  | list (items : List Value)
  deriving Inhabited

namespace Value

mutual
/-- Whether two values are the same. -/
def same : Value → Value → Bool
  | .null, .null => true
  | .bool a, .bool b => a == b
  | .number x, .number y => x == y
  | .string s, .string t => s == t
  | .color s, .color t => s == t
  | .dimension x u, .dimension y v => x == y && u == v
  | .list as, .list bs => sameItems as bs
  | _, _ => false
def sameItems : List Value → List Value → Bool
  | [], [] => true
  | a :: as, b :: bs => same a b && sameItems as bs
  | _, _ => false
end

instance : BEq Value := ⟨same⟩

mutual
theorem eq_of_same : ∀ {a b : Value}, same a b = true → a = b
  | .null, b, h => by cases b <;> simp_all [same]
  | .bool _, b, h => by cases b <;> simp_all [same]
  | .number _, b, h => by cases b <;> simp_all [same]
  | .string _, b, h => by cases b <;> simp_all [same]
  | .color _, b, h => by cases b <;> simp_all [same]
  | .dimension _ _, b, h => by cases b <;> simp_all [same]
  | .list as, b, h => by
    cases b with
    | list bs =>
      have h : sameItems as bs = true := by simpa [same] using h
      rw [eq_of_sameItems h]
    | _ => simp [same] at h
theorem eq_of_sameItems : ∀ {as bs : List Value}, sameItems as bs = true → as = bs
  | [], bs, h => by cases bs <;> simp_all [sameItems]
  | a :: as, bs, h => by
    cases bs with
    | nil => simp [sameItems] at h
    | cons b bs =>
      simp only [sameItems, Bool.and_eq_true] at h
      rw [eq_of_same h.1, eq_of_sameItems h.2]
end

mutual
theorem same_refl : ∀ a : Value, same a a = true
  | .null => rfl
  | .bool _ | .number _ | .string _ | .color _ => by simp [same]
  | .dimension _ _ => by simp [same]
  | .list items => by simp [same, sameItems_refl items]
theorem sameItems_refl : ∀ as : List Value, sameItems as as = true
  | [] => rfl
  | a :: as => by simp [sameItems, same_refl a, sameItems_refl as]
end

instance : LawfulBEq Value where
  eq_of_beq := eq_of_same
  rfl := same_refl _

instance : DecidableEq Value := fun a b =>
  decidable_of_iff (a == b) beq_iff_eq

/-- The kind of a value. A list does not describe its elements. -/
def kind : Value → Kind
  | .null => .null
  | .bool _ => .bool
  | .number _ => .number
  | .string _ => .string
  | .color _ => .color
  | .dimension _ _ => .dimension
  | .list _ => .list .any

def isNull : Value → Bool
  | .null => true
  | _ => false

/-- Whether a condition on the value holds: only null and false fail it. -/
def isTruthy : Value → Bool
  | .null | .bool false => false
  | _ => true

def asBool? : Value → Option Bool
  | .bool b => some b
  | _ => none

def asNumber? : Value → Option Binary64
  | .number x => some x
  | _ => none

def asString? : Value → Option String
  | .string s => some s
  | _ => none

def asColor? : Value → Option String
  | .color literal => some literal
  | _ => none

def asDimension? : Value → Option (Binary64 × String)
  | .dimension size unit => some (size, unit)
  | _ => none

def asList? : Value → Option (List Value)
  | .list items => some items
  | _ => none

end Value

end StyleScope
