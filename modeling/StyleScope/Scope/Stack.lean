import StyleScope.Scope.Run
import StyleScope.Scope.Telling

/-!
# Scope stacks

A chain as it is kept: the global scope by itself, and the scopes opened since in an array, the innermost
last. The operations are those of a chain. They work on the stack in place and tell their events, and a
refused one ends early.
-/

namespace StyleScope

structure ScopeStack (α : Type u) where
  global : SymbolTable α
  /-- The scopes in the global one, the innermost last. -/
  locals : Array (SymbolTable α)
  config : ScopeConfig

/-- The last place below `n` whose element satisfies `p`. -/
def lastBelow? {β : Type u} (p : β → Bool) (xs : Array β) : (n : Nat) → n ≤ xs.size → Option (Fin xs.size)
  | 0, _ => none
  | n + 1, h => if p xs[n] then some ⟨n, h⟩ else lastBelow? p xs n (Nat.le_of_succ_le h)

def Answer.ofResult {α : Type u} : Except Refusal PUnit → Answer α
  | .ok _ => .done
  | .error r => .refused r

namespace ScopeStack

variable {α : Type u}

def new (config : ScopeConfig) : ScopeStack α :=
  ⟨.empty, #[], config⟩

def depth (s : ScopeStack α) : Nat :=
  s.locals.size + 1

def current (s : ScopeStack α) : SymbolTable α :=
  s.locals.back?.getD s.global

def frames (s : ScopeStack α) : List (SymbolTable α) :=
  s.locals.toList.reverse ++ [s.global]

def enclosing (s : ScopeStack α) : List (SymbolTable α) :=
  s.frames.drop 1

/-- The place of the innermost local scope that binds the name. -/
def localHolder? (s : ScopeStack α) (name : String) : Option (Fin s.locals.size) :=
  lastBelow? (·.contains name) s.locals s.locals.size (Nat.le_refl _)

/-! ## Scopes to work on -/

def atGlobal (s : ScopeStack α) : Focus (ScopeStack α) (SymbolTable α) :=
  ⟨s.global, fun t => { s with global := t }⟩

def atLocal (s : ScopeStack α) (i : Fin s.locals.size) : Focus (ScopeStack α) (SymbolTable α) :=
  ⟨s.locals[i], fun t => { s with locals := s.locals.set i t }⟩

def atCurrent (s : ScopeStack α) : Focus (ScopeStack α) (SymbolTable α) :=
  if h : s.locals.size = 0 then s.atGlobal
  else s.atLocal ⟨s.locals.size - 1, Nat.sub_one_lt h⟩

/-! ## Operations -/

def push : Telling (ScopeStack α) (Except Refusal PUnit) := do
  let s ← get
  if s.config.maxDepth.toNat ≤ s.depth then
    Telling.tell (.depthLimitReached s.config.maxDepth)
    return .error (.depthExceeded s.config.maxDepth)
  modify fun s => { s with locals := s.locals.push .empty }
  Telling.tell (.enterScope (← get).depth)
  return .ok ⟨⟩

def pop : Telling (ScopeStack α) (Option (SymbolTable α)) := do
  -- the array of a global scope is empty, and taking its last element away leaves it empty
  let closed := (← get).locals.back?
  modify fun s => { s with locals := s.locals.pop }
  if closed.isSome then
    Telling.tell (.exitScope (← get).depth)
  else
    Telling.tell .exitGlobalRefused
  return closed

def setCurrent (name : String) (a : α) : Telling (ScopeStack α) PUnit := do
  (← get).atCurrent.work (SymbolTable.write name a)

def declare (name : String) (a : α) : Telling (ScopeStack α) (Except Refusal PUnit) := do
  let s ← get
  if s.config.shadowing = .deny ∧ s.enclosing.any (·.contains name) then
    Telling.tell (.shadowingRefused name)
    return .error (.shadowing name)
  s.atCurrent.work (SymbolTable.write name a)
  return .ok ⟨⟩

def assign (name : String) (a : α) : Telling (ScopeStack α) PUnit := do
  let s ← get
  match s.localHolder? name with
  | some i => (s.atLocal i).work (SymbolTable.write name a)
  | none =>
    if s.global.contains name then
      s.atGlobal.work (SymbolTable.write name a)
    else
      s.atCurrent.work (SymbolTable.write name a)

section
variable [Presence α]

def lookup (s : ScopeStack α) (name : String) : Lookup α :=
  ((s.frames.map (·.lookup name)).find? (·.isPresent)).getD .unbound

def get? (s : ScopeStack α) (name : String) : Option α :=
  (s.lookup name).value?

def isDefined (s : ScopeStack α) (name : String) : Bool :=
  (s.frames.find? (·.contains name)).any (·.isDefined name)

def observe (s : ScopeStack α) : ScopeQuery → Answer α
  | .depth => .observed (.count s.depth)
  | .config => .config s.config
  | .frames => .frames s.frames
  | .get name => .observed (.value (s.get? name))
  | .isDefined name => .observed (.flag (s.isDefined name))
  | .lookup name => .observed (.outcome (s.lookup name))
  | .current q => .observed (s.current.observe q)
  | .global q => .observed (s.global.observe q)

def perform : Action α → Telling (ScopeStack α) (Answer α)
  | .push => return .ofResult (← push)
  | .pop => return .popped (← pop)
  | .declare name a => return .ofResult (← declare name a)
  | .assign name a => do
    assign name a
    return .done
  | .setCurrent name a => do
    setCurrent name a
    return .done
  | .observe q => return (← get).observe q

def run : List (Action α) → Telling (ScopeStack α) (List (Answer α))
  | [] => return []
  | act :: acts => return (← perform act) :: (← run acts)

end

/-- Whether the innermost and the global scope have the same bindings. -/
def innermostEqualsGlobal [BEq α] (s : ScopeStack α) : Bool :=
  s.current == s.global

/-- Inspection text of a stack, if all its tables have one. -/
def inspect? [Inspect α] (s : ScopeStack α) : Option String := do
  let global ← s.global.inspect?
  let locals ← s.locals.toList.mapM (·.inspect?)
  return Inspect.record "Scopes"
    [("global", global), ("locals", Inspect.sequence locals), ("config", inspect s.config)]

end ScopeStack

end StyleScope
