import StyleScope.Text.Inspect

/-!
# Contexts

Where a failure occurred: the name of a source, a position in it, and the calls that led there.
-/

namespace StyleScope

structure Context where
  source : Option String := none
  line : Option Nat := none
  column : Option Nat := none
  /-- The calls, the innermost last. -/
  stack : List String := []
  deriving DecidableEq

namespace Context

def withSource (c : Context) (source : String) : Context :=
  { c with source := some source }

def withPosition (c : Context) (line column : Nat) : Context :=
  { c with line := some line, column := some column }

/-- The context inside one more call. -/
def withFrame (c : Context) (frame : String) : Context :=
  { c with stack := c.stack ++ [frame] }

/-- The source with the position in it. Without a source a position says nothing, and half a position
is none. -/
def place (c : Context) : String :=
  match c.source, c.line, c.column with
  | some source, some line, some column =>
    "at " ++ source ++ ":" ++ inspect line ++ ":" ++ inspect column
  | some source, _, _ => "at " ++ source
  | none, _, _ => ""

/-- The place, and a line for every call from the innermost outward. -/
def text (c : Context) : String :=
  c.place ++ String.join (c.stack.reverse.map ("\n  in " ++ ·))

instance : Inspect Context where
  inspect c := Inspect.record "ErrorContext"
    [("source", inspect c.source), ("line", inspect c.line), ("column", inspect c.column),
      ("stack", inspect c.stack)]

end Context

end StyleScope
