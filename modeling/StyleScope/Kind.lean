import StyleScope.Json
import StyleScope.Fingerprint
import StyleScope.Text.Inspect

/-!
# Kinds of values

A kind describes a value; it restricts nothing. Kinds are written as text for readers, and as tags in
which only a list kind has a payload, the kind of its elements.
-/

namespace StyleScope

inductive Kind where
  | null
  | bool
  | number
  | string
  | color
  | dimension
  | list (element : Kind)
  /-- The element kind of a list whose elements are not described further. -/
  | any
  deriving DecidableEq

namespace Kind

def text : Kind → String
  | .null => "null"
  | .bool => "boolean"
  | .number => "number"
  | .string => "string"
  | .color => "color"
  | .dimension => "dimension"
  | .list element => "list<" ++ element.text ++ ">"
  | .any => "any"

instance : Inspect Kind := ⟨text⟩

/-- Whether values of the kind are owned by the colour or the unit manager. -/
def isManaged : Kind → Bool
  | .color | .dimension => true
  | _ => false

/-- Whether null is of the kind. -/
def isNullable : Kind → Bool
  | .null | .any => true
  | _ => false

/-- The place of a kind's constructor in the declaration order, with the fingerprint of its payload. -/
def bytes : Kind → List UInt8
  | .null => Fingerprint.word 0
  | .bool => Fingerprint.word 1
  | .number => Fingerprint.word 2
  | .string => Fingerprint.word 3
  | .color => Fingerprint.word 4
  | .dimension => Fingerprint.word 5
  | .list element => Fingerprint.word 6 ++ element.bytes
  | .any => Fingerprint.word 7

instance : Fingerprint Kind := ⟨bytes⟩

/-- The kinds without payload and their names as tags. -/
def named : List (String × Kind) :=
  [("Null", .null), ("Bool", .bool), ("Number", .number), ("String", .string), ("Color", .color),
    ("Dimension", .dimension), ("Any", .any)]

/-- Reads a tag. A list kind needs its payload, and no other kind takes one. -/
def read? : Json → Option Kind
  | .string name => named.lookup name
  | .object [(name, payload)] =>
    if name = "List" then (read? payload).map .list
    else match payload with
      | .null => named.lookup name
      | _ => none
  | _ => none

def toJson : Kind → Json
  | .null => .string "Null"
  | .bool => .string "Bool"
  | .number => .string "Number"
  | .string => .string "String"
  | .color => .string "Color"
  | .dimension => .string "Dimension"
  | .list element => .object [("List", element.toJson)]
  | .any => .string "Any"

end Kind

end StyleScope
