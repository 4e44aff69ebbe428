import Mathlib.Data.Nat.ModEq
import StyleScope.Proofs.Text.SelfDelimiting
import StyleScope.Proofs.Value.Nested
import StyleScope.Value.Fingerprint

/-!
# Fingerprints and equality

A fingerprint is read from the front: the place of the constructor tells what follows it. Words have a
fixed width, a text ends at its mark, and a list tells its length before its items, so each part ends
where it says. A value can therefore be read back from its fingerprint, and equal values are those
with equal fingerprints.
-/

namespace StyleScope

open Text (SelfDelimiting)

/-! ## Words and texts -/

namespace Fingerprint

theorem lowBytes_append_inj {count m n : Nat} {r s : List UInt8}
    (h : lowBytes count m ++ r = lowBytes count n ++ s) : m ≡ n [MOD 256 ^ count] ∧ r = s := by
  induction count generalizing m n with
  | zero => exact ⟨Nat.modEq_one, h⟩
  | succ count ih =>
    obtain ⟨hlow, htail⟩ := List.cons.inj h
    obtain ⟨hhigh, hrs⟩ := ih htail
    refine ⟨?_, hrs⟩
    have hmod : m % 256 = n % 256 := by simpa using congrArg UInt8.toNat hlow
    rw [Nat.ModEq, pow_succ', Nat.mod_mul, Nat.mod_mul, hmod, hhigh]

theorem word_append_inj {m n : Nat} (hm : m < UInt64.size) (hn : n < UInt64.size) {r s : List UInt8}
    (h : word m ++ r = word n ++ s) : m = n ∧ r = s := by
  obtain ⟨hmn, hrs⟩ := lowBytes_append_inj h
  exact ⟨hmn.eq_of_lt_of_lt hm hn, hrs⟩

theorem selfDelimiting_bool : SelfDelimiting (fingerprint : Bool → List UInt8) := by
  intro a b r s h
  obtain ⟨hab, hrs⟩ := List.cons.inj h
  refine ⟨?_, hrs⟩
  cases a <;> cases b <;> first | rfl | simp at hab

theorem selfDelimiting_bits : SelfDelimiting fun x : Binary64 => fingerprint x.bits := by
  intro x y r s h
  obtain ⟨hbits, hrs⟩ := word_append_inj x.bits.toNat_lt_size y.bits.toNat_lt_size h
  exact ⟨congrArg Binary64.mk (UInt64.toNat_inj.mp hbits), hrs⟩

theorem selfDelimiting_string : SelfDelimiting (fingerprint : String → List UInt8) := by
  intro s t r r' h
  obtain ⟨hst, hr⟩ := Text.selfDelimiting_utf8EncodeChar.terminated Text.utf8EncodeChar_append_ne h
  exact ⟨String.toList_injective hst, hr⟩

end Fingerprint

/-! ## Values -/

namespace Value

open Fingerprint

/-- Every list in the value has a length that fits a word. -/
def LengthsFit : Value → Prop :=
  Everywhere fun v => ∀ items, v = .list items → items.length < UInt64.size

theorem LengthsFit.length_lt {items : List Value} (h : (list items).LengthsFit) : items.length < UInt64.size :=
  Everywhere.self h items rfl

/-- The place of the constructor. -/
def place : Value → Nat
  | .null => 0
  | .bool _ => 1
  | .number _ => 2
  | .string _ => 3
  | .color _ => 4
  | .dimension _ _ => 5
  | .list _ => 6

/-- What follows the place of the constructor. -/
def payload : Value → List UInt8
  | .null => []
  | .bool b => fingerprint b
  | .number x => fingerprint x.bits
  | .string s => fingerprint s
  | .color literal => fingerprint literal
  | .dimension size unit => fingerprint size.bits ++ fingerprint unit
  | .list items => fingerprint items

theorem bytes_eq (v : Value) : v.bytes = word v.place ++ v.payload := by
  cases v with
  | null => exact (List.append_nil _).symm
  | _ => simp [bytes, place, payload, fingerprint]

theorem place_lt (v : Value) : v.place < UInt64.size := by
  cases v <;> simp [place, UInt64.size]

theorem place_payload_of_bytes_append {a b : Value} {r s : List UInt8} (h : a.bytes ++ r = b.bytes ++ s) :
    a.place = b.place ∧ a.payload ++ r = b.payload ++ s := by
  rw [bytes_eq, bytes_eq, List.append_assoc, List.append_assoc] at h
  exact word_append_inj a.place_lt b.place_lt h

theorem itemBytes_append_inj {as bs : List Value} (hlen : as.length = bs.length)
    (hitems : ∀ v ∈ as, ∀ w ∈ bs, ∀ r s : List UInt8, v.bytes ++ r = w.bytes ++ s → v = w ∧ r = s)
    {r s : List UInt8} (h : itemBytes as ++ r = itemBytes bs ++ s) : as = bs ∧ r = s := by
  induction as generalizing bs with
  | nil =>
    cases bs with
    | nil => exact ⟨rfl, h⟩
    | cons b bs => simp at hlen
  | cons a as ih =>
    cases bs with
    | nil => simp at hlen
    | cons b bs =>
      simp only [itemBytes, List.append_assoc] at h
      obtain ⟨hab, hrest⟩ := hitems a List.mem_cons_self b List.mem_cons_self _ _ h
      obtain ⟨has, hrs⟩ := ih (Nat.succ.inj hlen)
        (fun v hv w hw => hitems v (List.mem_cons_of_mem _ hv) w (List.mem_cons_of_mem _ hw)) hrest
      exact ⟨by rw [hab, has], hrs⟩

theorem eq_of_payload_append {a b : Value} (ha : a.LengthsFit) (hb : b.LengthsFit) {r s : List UInt8}
    (hplace : a.place = b.place) (hpayload : a.payload ++ r = b.payload ++ s) : a = b ∧ r = s := by
  induction a using induction_items generalizing b r s with
  | null =>
    cases b with
    | null => exact ⟨rfl, hpayload⟩
    | _ => cases hplace
  | bool x =>
    cases b with
    | bool y =>
      obtain ⟨hxy, hrs⟩ := selfDelimiting_bool hpayload
      exact ⟨by rw [hxy], hrs⟩
    | _ => cases hplace
  | number x =>
    cases b with
    | number y =>
      obtain ⟨hxy, hrs⟩ := selfDelimiting_bits hpayload
      exact ⟨by rw [hxy], hrs⟩
    | _ => cases hplace
  | string t =>
    cases b with
    | string u =>
      obtain ⟨htu, hrs⟩ := selfDelimiting_string hpayload
      exact ⟨by rw [htu], hrs⟩
    | _ => cases hplace
  | color t =>
    cases b with
    | color u =>
      obtain ⟨htu, hrs⟩ := selfDelimiting_string hpayload
      exact ⟨by rw [htu], hrs⟩
    | _ => cases hplace
  | dimension x t =>
    cases b with
    | dimension y u =>
      simp only [payload, List.append_assoc] at hpayload
      obtain ⟨hxy, htext⟩ := selfDelimiting_bits hpayload
      obtain ⟨htu, hrs⟩ := selfDelimiting_string htext
      exact ⟨by rw [hxy, htu], hrs⟩
    | _ => cases hplace
  | list as ih =>
    cases b with
    | list bs =>
      simp only [payload, fingerprint, List.append_assoc] at hpayload
      obtain ⟨hlen, hitems⟩ := word_append_inj ha.length_lt hb.length_lt hpayload
      obtain ⟨hab, hrs⟩ := itemBytes_append_inj hlen (fun v hv w hw r s he => by
        obtain ⟨hplace, hpayload⟩ := place_payload_of_bytes_append he
        exact ih v hv (Everywhere.of_mem ha v hv) (Everywhere.of_mem hb w hw) hplace hpayload) hitems
      exact ⟨by rw [hab], hrs⟩
    | _ => cases hplace

theorem bytes_append_inj {a b : Value} (ha : a.LengthsFit) (hb : b.LengthsFit) {r s : List UInt8}
    (h : a.bytes ++ r = b.bytes ++ s) : a = b ∧ r = s := by
  obtain ⟨hplace, hpayload⟩ := place_payload_of_bytes_append h
  exact eq_of_payload_append ha hb hplace hpayload

theorem eq_of_fingerprint_begins {a b : Value} (ha : a.LengthsFit) (hb : b.LengthsFit)
    (h : fingerprint a <+: fingerprint b) : a = b := by
  obtain ⟨r, hr⟩ := h
  exact (bytes_append_inj ha hb (hr.trans (List.append_nil _).symm)).1

/-- **Equal values are those with equal fingerprints.** Values are equal exactly if they have the same
structure with bitwise equal numbers, and exactly if their fingerprints are equal; and no fingerprint is
a proper beginning of another. -/
theorem beq_iff_eq_iff_fingerprint_eq {a b : Value} (ha : a.LengthsFit) (hb : b.LengthsFit) :
    ((a == b) = true ↔ a = b) ∧ (∀ x y : Binary64, (number x == number y) = true ↔ x.bits = y.bits) ∧
      ((a == b) = true ↔ fingerprint a = fingerprint b) ∧
      (fingerprint a <+: fingerprint b → fingerprint a = fingerprint b) := by
  refine ⟨beq_iff_eq, fun x y => ?_, ⟨?_, ?_⟩, ?_⟩
  · rw [beq_iff_eq, number.injEq]
    exact ⟨congrArg Binary64.bits, congrArg Binary64.mk⟩
  · intro h
    rw [eq_of_beq h]
  · intro h
    exact beq_iff_eq.mpr (eq_of_fingerprint_begins ha hb (h ▸ List.prefix_rfl))
  · intro h
    rw [eq_of_fingerprint_begins ha hb h]

/-- Two lists of one item each are not mistaken for one list of two items. -/
theorem beq_iff_eq_iff_fingerprint_eq_nested :
    let x := number ⟨0x7ff8000000000001⟩
    let a := list [list [x], list [string "b"]]
    let b := list [list [x, string "b"]]
    a.LengthsFit ∧ b.LengthsFit ∧ fingerprint a ≠ fingerprint b ∧ ¬ fingerprint a <+: fingerprint b := by
  intro x a b
  have ha : a.LengthsFit := by simp [a, x, LengthsFit, Everywhere, ItemsEverywhere, UInt64.size]
  have hb : b.LengthsFit := by simp [b, x, LengthsFit, Everywhere, ItemsEverywhere, UInt64.size]
  obtain ⟨-, -, hiff, hbegins⟩ := beq_iff_eq_iff_fingerprint_eq ha hb
  have hne : fingerprint a ≠ fingerprint b := fun h => absurd (hiff.mpr h) (by decide)
  exact ⟨ha, hb, hne, fun h => hne (hbegins h)⟩

end Value

end StyleScope
