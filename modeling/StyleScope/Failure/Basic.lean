import StyleScope.Failure.Code

/-!
# Failures

A failure is a fault with a message and, where there is one, the value at fault. A fault that blames
one of its arguments records it as the value; one that concerns two operands alike records none.
-/

namespace StyleScope

structure Failure (κ : Type) where
  fault : κ
  message : String
  value : Option String
  deriving DecidableEq

namespace Failure

variable {κ : Type}

/-- A failure that records no value. -/
def new (fault : κ) (message : String) : Failure κ :=
  ⟨fault, message, none⟩

/-- The failure with `value` on record, whatever was there. -/
def withValue (f : Failure κ) (value : String) : Failure κ :=
  { f with value := some value }

/-- The description of the fault and the message. -/
def text [Fault κ] (f : Failure κ) : String :=
  Fault.text f.fault ++ ": " ++ f.message

instance [Fault κ] : Inspect (Failure κ) where
  inspect f := Inspect.record (Tag.name (Fault.manager κ) ++ "Error")
    [("kind", Tag.name f.fault), ("message", inspect f.message), ("value", inspect f.value)]

end Failure

abbrev ColorFailure := Failure ColorFault

namespace ColorFailure

def invalidFormat (literal : String) : ColorFailure :=
  Failure.withValue (.new .invalidFormat s!"cannot parse '{literal}' as a color") literal

def unknownFormat (format : String) : ColorFailure :=
  Failure.withValue (.new .unknownFormat s!"no color format named '{format}'") format

def missingAttribute (format key : String) : ColorFailure :=
  Failure.withValue (.new .missingAttribute s!"{format} color requires attribute '{key}'") key

def invalidAttribute (key value : String) : ColorFailure :=
  Failure.withValue (.new .invalidAttribute s!"attribute '{key}' cannot be '{value}'") value

def unsupportedConversion (source target : String) : ColorFailure :=
  .new .unsupportedConversion s!"cannot convert {source} to {target}"

def invalidSpecification (reason : String) : ColorFailure :=
  .new .invalidSpecification reason

end ColorFailure

abbrev UnitFailure := Failure UnitFault

namespace UnitFailure

def unknownUnit (suffix : String) : UnitFailure :=
  Failure.withValue (.new .unknownUnit s!"unknown unit '{suffix}'") suffix

def incompatibleUnits (left right : String) : UnitFailure :=
  .new .incompatibleUnits s!"cannot combine '{left}' with '{right}'"

def conversionImpossible (source target : String) : UnitFailure :=
  .new .conversionImpossible s!"cannot convert '{source}' to '{target}'"

def invalidSpecification (reason : String) : UnitFailure :=
  .new .invalidSpecification reason

def unsupportedOperation (operation unit : String) : UnitFailure :=
  Failure.withValue (.new .unsupportedOperation s!"'{operation}' is not supported for '{unit}'") unit

end UnitFailure

/-- A failure of any manager. -/
inductive ManagerFailure where
  | color (failure : ColorFailure)
  | unit (failure : UnitFailure)
  deriving DecidableEq

namespace ManagerFailure

def manager : ManagerFailure → Manager
  | .color _ => .color
  | .unit _ => .unit

def code : ManagerFailure → FaultCode
  | .color f => .color f.fault
  | .unit f => .unit f.fault

def message : ManagerFailure → String
  | .color f => f.message
  | .unit f => f.message

def value : ManagerFailure → Option String
  | .color f => f.value
  | .unit f => f.value

def text : ManagerFailure → String
  | .color f => f.text
  | .unit f => f.text

instance : Inspect ManagerFailure where
  inspect
    | .color f => Inspect.applied "Color" (inspect f)
    | .unit f => Inspect.applied "Unit" (inspect f)

end ManagerFailure

end StyleScope
