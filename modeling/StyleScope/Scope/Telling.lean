import StyleScope.Scope.Event

/-!
# Work that tells events

Work on a state comes to a result, the state it leaves and the events it told on the way. A refusal is a
result like any other, so work that is refused leaves a state as well.
-/

namespace StyleScope

/-- What work on a state comes to. -/
structure Outcome (σ : Type u) (ρ : Type v) where
  result : ρ
  state : σ
  events : List Event

/-- Work on a state of type `σ` with a result of type `ρ`. -/
structure Telling (σ : Type u) (ρ : Type v) where
  on : σ → Outcome σ ρ

namespace Telling

variable {σ : Type u} {ρ τ : Type u}

instance : Monad (Telling σ) where
  pure r := ⟨fun s => ⟨r, s, []⟩⟩
  bind work next := ⟨fun s =>
    let first := work.on s
    let second := (next first.result).on first.state
    ⟨second.result, second.state, first.events ++ second.events⟩⟩

instance : MonadStateOf σ (Telling σ) where
  get := ⟨fun s => ⟨s, s, []⟩⟩
  set s := ⟨fun _ => ⟨⟨⟩, s, []⟩⟩
  modifyGet f := ⟨fun s => ⟨(f s).1, (f s).2, []⟩⟩

def tell (e : Event) : Telling σ PUnit.{u + 1} :=
  ⟨fun s => ⟨⟨⟩, s, [e]⟩⟩

/-! Work done step by step. -/

theorem on_pure (r : ρ) (s : σ) : (pure r : Telling σ ρ).on s = ⟨r, s, []⟩ :=
  rfl

theorem on_bind (work : Telling σ ρ) (next : ρ → Telling σ τ) (s : σ) :
    (work >>= next).on s =
      let first := work.on s
      let second := (next first.result).on first.state
      ⟨second.result, second.state, first.events ++ second.events⟩ :=
  rfl

theorem on_bind_pure (work : Telling σ ρ) (f : ρ → τ) (s : σ) :
    (work >>= fun r => pure (f r)).on s = ⟨f (work.on s).result, (work.on s).state, (work.on s).events⟩ :=
  congrArg (Outcome.mk _ _) (List.append_nil _)

theorem on_get_bind (next : σ → Telling σ ρ) (s : σ) : (get >>= next).on s = (next s).on s :=
  rfl

theorem on_modify_bind (f : σ → σ) (next : PUnit → Telling σ ρ) (s : σ) :
    (modify f >>= next).on s = (next ⟨⟩).on (f s) :=
  rfl

end Telling

/-- A part of a state, and the state with another part in its place. -/
structure Focus (σ : Type u) (τ : Type v) where
  part : τ
  put : τ → σ

/-- Works on the part in focus, which was taken from the state at hand. -/
def Focus.work {σ : Type u} {τ : Type v} {ρ : Type w} (f : Focus σ τ) (work : Telling τ ρ) : Telling σ ρ :=
  ⟨fun _ =>
    let done := work.on f.part
    ⟨done.result, f.put done.state, done.events⟩⟩

/-- Binds a name and tells its key. -/
def SymbolTable.write {α : Type u} (name : String) (a : α) : Telling (SymbolTable α) PUnit := do
  let key := canonicalKey name
  Telling.tell (.bind key)
  modify fun t => ⟨t.bindings.insert key a⟩

end StyleScope
