import StyleScope.Text.Inspect

/-!
# Configuration of scope chains
-/

namespace StyleScope

/-- What becomes of a declaration that would hide a binding of an enclosing scope. -/
inductive Shadowing where
  | allow
  | deny
  deriving DecidableEq

instance : Inspect Shadowing where
  inspect
    | .allow => "Allow"
    | .deny => "Deny"

structure ScopeConfig where
  /-- The greatest number of open scopes, the global one included. -/
  maxDepth : UInt64
  shadowing : Shadowing
  deriving DecidableEq

namespace ScopeConfig

def standard : ScopeConfig :=
  ⟨256, .allow⟩

def strict : ScopeConfig :=
  ⟨64, .deny⟩

def withMaxDepth (c : ScopeConfig) (depth : UInt64) : ScopeConfig :=
  { c with maxDepth := depth }

def withShadowing (c : ScopeConfig) (shadowing : Shadowing) : ScopeConfig :=
  { c with shadowing := shadowing }

instance : Inspect ScopeConfig where
  inspect c := Inspect.record "ScopeConfig"
    [("max_depth", inspect c.maxDepth), ("shadowing", inspect c.shadowing)]

end ScopeConfig

end StyleScope
