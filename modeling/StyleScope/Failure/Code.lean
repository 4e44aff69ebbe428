import StyleScope.Json
import StyleScope.Fingerprint
import StyleScope.Text.Inspect

/-!
# Faults and their codes

Colours and units are looked after by a manager each, and each manager has a closed set of faults. A
fault has a stable dotted code, which starts with the name of its manager, and a short description.
-/

namespace StyleScope

inductive Manager where
  | color
  | unit
  deriving DecidableEq

namespace Manager

instance : Tag Manager where
  all := [.color, .unit]
  name
    | .color => "Color"
    | .unit => "Unit"

instance : Inspect Manager := ⟨Tag.name⟩

instance : Fingerprint Manager := ⟨fun m => Fingerprint.word m.ctorIdx⟩

def text : Manager → String
  | .color => "color"
  | .unit => "unit"

end Manager

/-- A closed set of faults of one manager. -/
class Fault (κ : Type) extends Tag κ where
  manager : Manager
  code : κ → String
  text : κ → String

inductive ColorFault where
  /-- The literal is no well-formed colour. -/
  | invalidFormat
  /-- The colour format is not registered. -/
  | unknownFormat
  | missingAttribute
  /-- The attribute is there, with a value that cannot be used. -/
  | invalidAttribute
  /-- No way leads from one colour format to the other. -/
  | unsupportedConversion
  /-- A description of a colour format cannot be loaded. -/
  | invalidSpecification
  deriving DecidableEq

instance : Fault ColorFault where
  all := [.invalidFormat, .unknownFormat, .missingAttribute, .invalidAttribute,
    .unsupportedConversion, .invalidSpecification]
  name
    | .invalidFormat => "InvalidFormat"
    | .unknownFormat => "UnknownFormat"
    | .missingAttribute => "MissingAttribute"
    | .invalidAttribute => "InvalidAttribute"
    | .unsupportedConversion => "UnsupportedConversion"
    | .invalidSpecification => "InvalidSpecification"
  manager := .color
  code
    | .invalidFormat => "color.invalid-format"
    | .unknownFormat => "color.unknown-format"
    | .missingAttribute => "color.missing-attribute"
    | .invalidAttribute => "color.invalid-attribute"
    | .unsupportedConversion => "color.unsupported-conversion"
    | .invalidSpecification => "color.invalid-specification"
  text
    | .invalidFormat => "invalid color format"
    | .unknownFormat => "unknown color format"
    | .missingAttribute => "missing color attribute"
    | .invalidAttribute => "invalid color attribute"
    | .unsupportedConversion => "unsupported color conversion"
    | .invalidSpecification => "invalid color specification"

instance : Fingerprint ColorFault := ⟨fun f => Fingerprint.word f.ctorIdx⟩

inductive UnitFault where
  /-- The suffix is no registered unit. -/
  | unknownUnit
  /-- Two operands have units that cannot be combined. -/
  | incompatibleUnits
  /-- Both units are known, and nothing converts one to the other. -/
  | conversionImpossible
  /-- A description of a unit cannot be loaded. -/
  | invalidSpecification
  /-- The operation is not defined on dimensions. -/
  | unsupportedOperation
  deriving DecidableEq

instance : Fault UnitFault where
  all := [.unknownUnit, .incompatibleUnits, .conversionImpossible, .invalidSpecification,
    .unsupportedOperation]
  name
    | .unknownUnit => "UnknownUnit"
    | .incompatibleUnits => "IncompatibleUnits"
    | .conversionImpossible => "ConversionImpossible"
    | .invalidSpecification => "InvalidSpecification"
    | .unsupportedOperation => "UnsupportedOperation"
  manager := .unit
  code
    | .unknownUnit => "unit.unknown-unit"
    | .incompatibleUnits => "unit.incompatible-units"
    | .conversionImpossible => "unit.conversion-impossible"
    | .invalidSpecification => "unit.invalid-specification"
    | .unsupportedOperation => "unit.unsupported-operation"
  text
    | .unknownUnit => "unknown unit"
    | .incompatibleUnits => "incompatible units"
    | .conversionImpossible => "unit conversion impossible"
    | .invalidSpecification => "invalid unit specification"
    | .unsupportedOperation => "unsupported unit operation"

instance : Fingerprint UnitFault := ⟨fun f => Fingerprint.word f.ctorIdx⟩

/-- A fault of any manager. -/
inductive FaultCode where
  | color (fault : ColorFault)
  | unit (fault : UnitFault)
  deriving DecidableEq

namespace FaultCode

/-- All codes, grouped by manager. -/
def all : List FaultCode :=
  Tag.all.map .color ++ Tag.all.map .unit

def manager : FaultCode → Manager
  | .color _ => .color
  | .unit _ => .unit

/-- The dotted code. -/
def text : FaultCode → String
  | .color f => Fault.code f
  | .unit f => Fault.code f

/-- The description of the fault. -/
def faultText : FaultCode → String
  | .color f => Fault.text f
  | .unit f => Fault.text f

instance : Inspect FaultCode where
  inspect
    | .color f => Inspect.applied "Color" (Tag.name f)
    | .unit f => Inspect.applied "Unit" (Tag.name f)

instance : Fingerprint FaultCode where
  fingerprint
    | .color f => Fingerprint.word 0 ++ fingerprint f
    | .unit f => Fingerprint.word 1 ++ fingerprint f

/-- Reads a code: the manager's name is the only key, with the fault as its payload. -/
def read? : Json → Option FaultCode
  | .object [("Color", fault)] => (Tag.read? fault).map .color
  | .object [("Unit", fault)] => (Tag.read? fault).map .unit
  | _ => none

def toJson : FaultCode → Json
  | .color f => .object [("Color", Tag.toJson f)]
  | .unit f => .object [("Unit", Tag.toJson f)]

end FaultCode

end StyleScope
