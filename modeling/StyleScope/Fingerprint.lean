/-!
# Fingerprints

The fingerprint of a datum is the stream of bytes that stands for it when it is hashed. Words have
eight bytes, the lowest first; a text is its UTF-8 bytes and a byte that UTF-8 never uses.
-/

namespace StyleScope

/-- Data with a fingerprint. -/
class Fingerprint (α : Type u) where
  fingerprint : α → List UInt8

export Fingerprint (fingerprint)

namespace Fingerprint

/-- The `count` lowest bytes of `n`, the lowest first. -/
def lowBytes : (count n : Nat) → List UInt8
  | 0, _ => []
  | count + 1, n => UInt8.ofNat n :: lowBytes count (n / 256)

/-- A number as a word of 64 bits. -/
def word (n : Nat) : List UInt8 :=
  lowBytes 8 n

instance : Fingerprint Bool := ⟨fun b => [if b then 1 else 0]⟩

instance : Fingerprint UInt64 := ⟨fun n => word n.toNat⟩

instance : Fingerprint String := ⟨fun s => s.toList.flatMap String.utf8EncodeChar ++ [0xff]⟩

end Fingerprint

end StyleScope
