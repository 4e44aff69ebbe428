import StyleScope.Scope.Event
import StyleScope.Table.Query

/-!
# Runs of a chain

A run performs actions on a chain one after the other. Every action has an answer and leaves a chain,
the same one if it was refused or only asked a question, and tells its events.
-/

namespace StyleScope

inductive ScopeQuery where
  | depth
  | config
  | frames
  | get (name : String)
  | isDefined (name : String)
  | lookup (name : String)
  /-- A question to the innermost scope. -/
  | current (q : TableQuery)
  /-- A question to the global scope. -/
  | global (q : TableQuery)

inductive Action (α : Type u) where
  | push
  | pop
  | declare (name : String) (a : α)
  | assign (name : String) (a : α)
  | setCurrent (name : String) (a : α)
  | observe (q : ScopeQuery)

inductive Answer (α : Type u) where
  | done
  | refused (r : Refusal)
  /-- The table of the scope that was closed, if one was. -/
  | popped (t? : Option (SymbolTable α))
  | observed (o : Observation α)
  | config (c : ScopeConfig)
  | frames (ts : List (SymbolTable α))

/-- An action done: its answer, the chain it leaves and its events. -/
structure Step (α : Type u) where
  answer : Answer α
  chain : ScopeChain α
  events : List Event

/-- Actions done: their answers in order, the chain left at the end and all events in order. -/
structure Run (α : Type u) where
  answers : List (Answer α)
  chain : ScopeChain α
  events : List Event

/-- Repeated opening or closing of scopes: how often it succeeded and the refusal that ended it. -/
structure Burst (α : Type u) where
  count : Nat
  refusal : Option Refusal
  chain : ScopeChain α
  events : List Event

namespace ScopeChain

variable {α : Type u}

section
variable [Presence α]

def observe (c : ScopeChain α) : ScopeQuery → Answer α
  | .depth => .observed (.count c.depth)
  | .config => .config c.config
  | .frames => .frames c.frames
  | .get name => .observed (.value (c.get? name))
  | .isDefined name => .observed (.flag (c.isDefined name))
  | .lookup name => .observed (.outcome (c.lookup name))
  | .current q => .observed (c.current.observe q)
  | .global q => .observed (c.global.observe q)

def perform (c : ScopeChain α) : Action α → Step α
  | .push =>
    match c.push with
    | .ok c' => ⟨.done, c', [.enterScope c'.depth]⟩
    | .error r => ⟨.refused r, c, [.ofRefusal r]⟩
  | .pop =>
    match c.pop with
    | some (t, c') => ⟨.popped (some t), c', [.exitScope c'.depth]⟩
    | none => ⟨.popped none, c, [.exitGlobalRefused]⟩
  | .declare name a =>
    match c.declare name a with
    | .ok c' => ⟨.done, c', [.ofBinding name]⟩
    | .error r => ⟨.refused r, c, [.ofRefusal r]⟩
  | .assign name a => ⟨.done, c.assign name a, [.ofBinding name]⟩
  | .setCurrent name a => ⟨.done, c.setCurrent name a, [.ofBinding name]⟩
  | .observe q => ⟨c.observe q, c, []⟩

def run (c : ScopeChain α) : List (Action α) → Run α
  | [] => ⟨[], c, []⟩
  | a :: as =>
    let step := c.perform a
    let rest := step.chain.run as
    ⟨step.answer :: rest.answers, rest.chain, step.events ++ rest.events⟩

end

/-- Opens scopes, `times` of them or as many as the limit leaves. -/
def pushMany : (times : Nat) → ScopeChain α → Burst α
  | 0, c => ⟨0, none, c, []⟩
  | times + 1, c =>
    match c.push with
    | .ok c' =>
      let rest := pushMany times c'
      { rest with count := rest.count + 1, events := .enterScope c'.depth :: rest.events }
    | .error r => ⟨0, some r, c, [.ofRefusal r]⟩

/-- Tries `times` times to close a scope. -/
def popMany : (times : Nat) → ScopeChain α → Burst α
  | 0, c => ⟨0, none, c, []⟩
  | times + 1, c =>
    match c.pop with
    | some (_, c') =>
      let rest := popMany times c'
      { rest with count := rest.count + 1, events := .exitScope c'.depth :: rest.events }
    | none =>
      let rest := popMany times c
      { rest with events := .exitGlobalRefused :: rest.events }

end ScopeChain

end StyleScope
