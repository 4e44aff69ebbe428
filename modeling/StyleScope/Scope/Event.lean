import StyleScope.Scope.Chain

/-!
# Events

What tables and chains tell an observer while they work. Changes are traced; refusals are of more
interest and stand a level higher.
-/

namespace StyleScope

inductive Level where
  | trace
  | debug
  deriving DecidableEq

inductive Event where
  /-- A canonical key was bound. -/
  | bind (key : String)
  /-- A scope was opened; `depth` counts it. -/
  | enterScope (depth : Nat)
  /-- A scope was closed; `depth` does not count it. -/
  | exitScope (depth : Nat)
  | depthLimitReached (limit : UInt64)
  /-- The global scope was to be closed. -/
  | exitGlobalRefused
  /-- A declaration was refused; the name stands as written. -/
  | shadowingRefused (name : String)
  deriving DecidableEq

namespace Event

def level : Event → Level
  | .bind _ | .enterScope _ | .exitScope _ => .trace
  | .depthLimitReached _ | .exitGlobalRefused | .shadowingRefused _ => .debug

def message : Event → String
  | .bind _ => "bind"
  | .enterScope _ => "enter scope"
  | .exitScope _ => "exit scope"
  | .depthLimitReached _ => "scope depth limit reached"
  | .exitGlobalRefused => "attempted to exit the global scope"
  | .shadowingRefused _ => "refused shadowing declaration"

/-- The event of binding a name. -/
def ofBinding (name : String) : Event :=
  .bind (canonicalKey name)

def ofRefusal : Refusal → Event
  | .depthExceeded limit => .depthLimitReached limit
  | .shadowing name => .shadowingRefused name

end Event

end StyleScope
