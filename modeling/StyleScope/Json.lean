/-!
# JSON and tags

A tag of a closed set is written as its name. On reading, an object with the name as its only key and
null as its value stands for the plain name.
-/

namespace StyleScope

inductive Json where
  | null
  | bool (b : Bool)
  /-- The number `mantissa / 10 ^ places`. -/
  | number (mantissa : Int) (places : Nat)
  | string (s : String)
  | array (items : List Json)
  | object (fields : List (String × Json))
  deriving Inhabited

/-- The name that a tag without payload gives, in either of its forms. -/
def Json.tagName? : Json → Option String
  | .string name => some name
  | .object [(name, .null)] => some name
  | _ => none

/-- A closed set of named tags, listed in order. -/
class Tag (α : Type) where
  all : List α
  name : α → String

namespace Tag

variable {α : Type} [Tag α]

def ofName? (s : String) : Option α :=
  all.find? (name · == s)

def read? (j : Json) : Option α :=
  j.tagName?.bind ofName?

def toJson (a : α) : Json :=
  .string (name a)

end Tag

end StyleScope
