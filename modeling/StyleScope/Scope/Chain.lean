import StyleScope.Scope.Config
import StyleScope.Table.Basic

/-!
# Scope chains

A chain of tables, one for every open scope. The global scope is opened with the chain and never
closed. A name is resolved in the nearest scope that binds it, even if it is bound to the absent
marker there.
-/

namespace StyleScope

/-- Why a chain refuses an operation. -/
inductive Refusal where
  /-- The chain is as deep as it may get. -/
  | depthExceeded (limit : UInt64)
  /-- The name, as written, is bound in an enclosing scope. -/
  | shadowing (name : String)
  deriving DecidableEq

namespace Refusal

def message : Refusal → String
  | .depthExceeded limit => "scope depth limit (" ++ inspect limit ++ ") exceeded"
  | .shadowing name => "'" ++ name ++ "' is already bound in an enclosing scope"

instance : Inspect Refusal where
  inspect
    | .depthExceeded limit => Inspect.record "DepthExceeded" [("limit", inspect limit)]
    | .shadowing name => Inspect.record "Shadowing" [("name", inspect name)]

end Refusal

structure ScopeChain (α : Type u) where
  /-- The innermost scope. -/
  current : SymbolTable α
  /-- The scopes around it, the innermost first and the global one last. -/
  enclosing : List (SymbolTable α)
  config : ScopeConfig

namespace ScopeChain

variable {α : Type u}

/-- The chain of an empty global scope. -/
def new (config : ScopeConfig) : ScopeChain α :=
  ⟨.empty, [], config⟩

/-- All scopes, the innermost first. -/
def frames (c : ScopeChain α) : List (SymbolTable α) :=
  c.current :: c.enclosing

def global (c : ScopeChain α) : SymbolTable α :=
  c.enclosing.getLast?.getD c.current

/-- The number of open scopes. -/
def depth (c : ScopeChain α) : Nat :=
  c.enclosing.length + 1

/-- Opens an empty scope. -/
def push (c : ScopeChain α) : Except Refusal (ScopeChain α) :=
  if c.config.maxDepth.toNat ≤ c.depth then .error (.depthExceeded c.config.maxDepth)
  else .ok { c with current := .empty, enclosing := c.current :: c.enclosing }

/-- Closes the innermost scope and hands out its table, unless it is the global scope. -/
def pop (c : ScopeChain α) : Option (SymbolTable α × ScopeChain α) :=
  match c.enclosing with
  | [] => none
  | outer :: rest => some (c.current, { c with current := outer, enclosing := rest })

/-- Binds a name in the innermost scope. -/
def setCurrent (c : ScopeChain α) (name : String) (a : α) : ScopeChain α :=
  { c with current := c.current.set name a }

/-- Declares a name in the innermost scope. Where shadowing is denied, no enclosing scope may bind it. -/
def declare (c : ScopeChain α) (name : String) (a : α) : Except Refusal (ScopeChain α) :=
  if c.config.shadowing = .deny ∧ c.enclosing.any (·.contains name) then .error (.shadowing name)
  else .ok (c.setCurrent name a)

/-- Binds a name anew in the first of the tables that binds it. -/
def rebind? (name : String) (a : α) : List (SymbolTable α) → Option (List (SymbolTable α))
  | [] => none
  | t :: ts =>
    if t.contains name then some (t.set name a :: ts) else (rebind? name a ts).map (t :: ·)

/-- Binds a name where it is resolved, or in the innermost scope if nothing binds it. -/
def assign (c : ScopeChain α) (name : String) (a : α) : ScopeChain α :=
  if c.current.contains name then c.setCurrent name a
  else match rebind? name a c.enclosing with
    | some enclosing => { c with enclosing }
    | none => c.setCurrent name a

section
variable [Presence α]

/-- The outcome in the nearest scope that binds the name. -/
def lookup (c : ScopeChain α) (name : String) : Lookup α :=
  ((c.frames.map (·.lookup name)).find? (·.isPresent)).getD .unbound

def get? (c : ScopeChain α) (name : String) : Option α :=
  (c.lookup name).value?

/-- Whether the nearest scope that binds the name gives it a value. -/
def isDefined (c : ScopeChain α) (name : String) : Bool :=
  (c.frames.find? (·.contains name)).any (·.isDefined name)

end

end ScopeChain

end StyleScope
