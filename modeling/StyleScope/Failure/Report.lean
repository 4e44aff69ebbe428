import StyleScope.Failure.Basic
import StyleScope.Failure.Context

/-!
# Reports

A report carries a manager's failure to whoever reads it, and may say where it occurred. It shows the
failure unchanged, whichever way the failure came in.
-/

namespace StyleScope

structure Report where
  failure : ManagerFailure
  context : Option Context

/-- What can be raised as a manager's failure. -/
class Raises (ε : Type) where
  toFailure : ε → ManagerFailure

instance : Raises ManagerFailure := ⟨id⟩

instance : Raises ColorFailure := ⟨.color⟩

instance : Raises UnitFailure := ⟨.unit⟩

namespace Report

/-- The report of a failure, with nothing said about its place. -/
def new (f : ManagerFailure) : Report :=
  ⟨f, none⟩

def color (f : ColorFailure) : Report :=
  new (.color f)

def unit (f : UnitFailure) : Report :=
  new (.unit f)

def raise {ε : Type} [Raises ε] (e : ε) : Report :=
  new (Raises.toFailure e)

/-- Passes a result on; a failure in it becomes a report. -/
def propagate {ε α : Type} [Raises ε] (result : Except ε α) : Except Report α :=
  result.mapError raise

/-- The report, set in a context. A new context replaces the one before. -/
def withContext (r : Report) (c : Context) : Report :=
  { r with context := some c }

def manager (r : Report) : Manager :=
  r.failure.manager

def code (r : Report) : FaultCode :=
  r.failure.code

def message (r : Report) : String :=
  r.failure.message

/-- The text of the failure. The context is not part of it. -/
def text (r : Report) : String :=
  r.failure.text

/-- The report that this one follows from. A manager's failure is where a chain of causes ends. -/
def cause? (_ : Report) : Option Report :=
  none

instance : Inspect Report where
  inspect r := Inspect.record "Error"
    [("kind", inspect r.failure), ("context", inspect r.context)]

end Report

/-- The ways in which a manager's failure becomes a report. -/
inductive Route where
  /-- The failure is reported as it is. -/
  | new
  /-- The failure is raised without looking which manager it is from. -/
  | raised
  /-- The failure is wrapped by the function for its manager. -/
  | wrapped
  /-- The manager's own failure is raised. -/
  | raisedByManager
  /-- The manager's own failure is the error of a result that is passed on. -/
  | propagated

namespace Route

/-- The error of a result that has no value. -/
def errorOf : Except Report Empty → Report
  | .error r => r

def report : Route → ManagerFailure → Report
  | .new, f => .new f
  | .raised, f => .raise f
  | .wrapped, .color f => .color f
  | .wrapped, .unit f => .unit f
  | .raisedByManager, .color f => .raise f
  | .raisedByManager, .unit f => .raise f
  | .propagated, .color f => errorOf (Report.propagate (.error f))
  | .propagated, .unit f => errorOf (Report.propagate (.error f))

end Route

end StyleScope
