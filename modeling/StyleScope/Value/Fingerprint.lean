import StyleScope.Value.Basic

/-!
# Fingerprints of values

A value starts with the place of its constructor, a list of values with its length, so that no
fingerprint is the beginning of another.
-/

namespace StyleScope.Value

mutual
def bytes : Value → List UInt8
  | .null => Fingerprint.word 0
  | .bool b => Fingerprint.word 1 ++ fingerprint b
  | .number x => Fingerprint.word 2 ++ fingerprint x.bits
  | .string s => Fingerprint.word 3 ++ fingerprint s
  | .color literal => Fingerprint.word 4 ++ fingerprint literal
  | .dimension size unit => Fingerprint.word 5 ++ fingerprint size.bits ++ fingerprint unit
  | .list items => Fingerprint.word 6 ++ (Fingerprint.word items.length ++ itemBytes items)
def itemBytes : List Value → List UInt8
  | [] => []
  | v :: vs => v.bytes ++ itemBytes vs
end

instance : Fingerprint Value := ⟨bytes⟩

instance : Fingerprint (List Value) := ⟨fun vs => Fingerprint.word vs.length ++ itemBytes vs⟩

end StyleScope.Value
