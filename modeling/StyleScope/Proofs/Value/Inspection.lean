import StyleScope.Proofs.Number.RoundTrip
import StyleScope.Proofs.Text.SelfDelimiting
import StyleScope.Proofs.Value.Nested

/-!
# Inspection text tells values apart

Values without colours and dimensions are written in three ways: as a word (null, a boolean, a number), as
a text between quotes, or as items between brackets. A word ends at the first comma or bracket, for it
has none of its own; a quoted text ends at its closing quote, and a list at its closing bracket. So the text can
be read in one way only, but for the numbers, of which their text is all that is seen.
-/

namespace StyleScope.Value

/-- The value and all values inside it are neither colours nor dimensions. -/
def Plain : Value → Prop :=
  Everywhere fun v => v.kind ≠ .color ∧ v.kind ≠ .dimension

/-- The same shape, with the same booleans and texts and with numbers of equal text at the same places. -/
inductive Alike : Value → Value → Prop
  | null : Alike .null .null
  | bool (b : Bool) : Alike (.bool b) (.bool b)
  | number {x y : Binary64} : x.text = y.text → Alike (.number x) (.number y)
  | string (s : String) : Alike (.string s) (.string s)
  | list {as bs : List Value} : List.Forall₂ Alike as bs → Alike (.list as) (.list bs)

/-! ## Words -/

inductive IsWord : Value → Prop
  | null : IsWord .null
  | bool (b : Bool) : IsWord (.bool b)
  | number (x : Binary64) : IsWord (.number x)

/-- The marks of lists and quoted texts. -/
def marks : List Char :=
  ['"', '[', ']', ',']

/-- The characters that do not end a word. -/
def isWordChar (c : Char) : Bool :=
  c ∉ marks

theorem Plain.cases {v : Value} (h : v.Plain) : v.IsWord ∨ (∃ s, v = .string s) ∨ ∃ items, v = .list items := by
  cases v with
  | null => exact Or.inl .null
  | bool b => exact Or.inl (.bool b)
  | number x => exact Or.inl (.number x)
  | string s => exact Or.inr (Or.inl ⟨s, rfl⟩)
  | color literal => exact absurd rfl (Everywhere.self h).1
  | dimension size unit => exact absurd rfl (Everywhere.self h).2
  | list items => exact Or.inr (Or.inr ⟨items, rfl⟩)

theorem number_text_ne_null (x : Binary64) : x.text ≠ "null" := by
  intro h
  have hu : 'u' ∈ "null".toList := by simp
  exact absurd (h ▸ hu) (x.not_mem_toList_text rfl (by decide))

theorem number_text_ne_boolText (x : Binary64) (b : Bool) : x.text ≠ boolText b := by
  intro h
  have he : 'e' ∈ (boolText b).toList := by cases b <;> simp [boolText]
  exact absurd (h ▸ he) (x.not_mem_toList_text rfl (by decide))

theorem boolText_ne_null (b : Bool) : boolText b ≠ "null" := by
  cases b <;> simp [boolText]

theorem boolText_injective : Function.Injective boolText := by
  intro b d h
  cases b <;> cases d <;> simp [boolText] at h ⊢

namespace IsWord

variable {v w : Value}

theorem not_mem_of_mem_marks (h : v.IsWord) {c : Char} (hc : c ∈ marks) : c ∉ v.inspection.toList := by
  cases h with
  | null =>
    have hall : ∀ c ∈ marks, c ∉ "null".toList := by simp [marks]
    exact hall c hc
  | bool b =>
    have hall : ∀ c ∈ marks, c ∉ (boolText b).toList := by cases b <;> simp [marks, boolText]
    exact hall c hc
  | number x =>
    have hall : ∀ c ∈ marks, c.isDigit = false ∧ c ∉ Binary64.nonDigits := by simp [marks, Binary64.nonDigits]
    exact x.not_mem_toList_text (hall c hc).1 (hall c hc).2

theorem isWordChar_of_mem (h : v.IsWord) {c : Char} (hc : c ∈ v.inspection.toList) : isWordChar c = true :=
  decide_eq_true fun hmark => h.not_mem_of_mem_marks hmark hc

theorem inspection_ne_nil (h : v.IsWord) : v.inspection.toList ≠ [] := by
  cases h with
  | null => simp [inspection]
  | bool b => cases b <;> simp [inspection, boolText]
  | number x => exact x.toList_text_ne_nil

theorem alike (hv : v.IsWord) (hw : w.IsWord) (h : v.inspection = w.inspection) : Alike v w := by
  cases hv with
  | null =>
    cases hw with
    | null => exact .null
    | bool d => exact absurd h.symm (boolText_ne_null d)
    | number y => exact absurd h.symm (number_text_ne_null y)
  | bool b =>
    cases hw with
    | null => exact absurd h (boolText_ne_null b)
    | bool d =>
      rw [boolText_injective h]
      exact .bool d
    | number y => exact absurd h.symm (number_text_ne_boolText y b)
  | number x =>
    cases hw with
    | null => exact absurd h (number_text_ne_null x)
    | bool d => exact absurd h (number_text_ne_boolText x d)
    | number y => exact .number h

end IsWord

/-! ## Reading from the front -/

/-- The rest of a text after a value: no character that would go on with a word. -/
def EndsWord (rest : List Char) : Prop :=
  rest.takeWhile isWordChar = []

/-- At the front of a text the two values are written alike only if they are, and then as far. -/
def ReadAlike (a b : Value) : Prop :=
  ∀ ⦃r s : List Char⦄, EndsWord r → EndsWord s → a.inspection.toList ++ r = b.inspection.toList ++ s →
    Alike a b ∧ r = s

theorem IsWord.takeWhile_append {v : Value} (h : v.IsWord) {r : List Char} (hr : EndsWord r) :
    (v.inspection.toList ++ r).takeWhile isWordChar = v.inspection.toList := by
  rw [List.takeWhile_append_of_pos fun c hc => h.isWordChar_of_mem hc, hr, List.append_nil]

theorem IsWord.append_ne {v : Value} (h : v.IsWord) {r : List Char} (hr : EndsWord r) {c : Char} (hc : c ∈ marks)
    (s : List Char) : v.inspection.toList ++ r ≠ c :: s := by
  intro he
  have htake := h.takeWhile_append hr
  rw [he, List.takeWhile_cons_of_neg (by simp [isWordChar, hc])] at htake
  exact h.inspection_ne_nil htake.symm

theorem toList_inspection_string (t : String) :
    (string t).inspection.toList = '"' :: (t.toList.flatMap Text.escapeChar ++ ['"']) := by
  simp [inspection, Text.quoted]

theorem toList_inspection_list (items : List Value) :
    (list items).inspection.toList = '[' :: ((", ".intercalate (inspections items)).toList ++ [']']) := by
  simp [inspection, Inspect.sequence]

theorem inspection_append_ne_close {v : Value} (hv : v.Plain) {r : List Char} (hr : EndsWord r) (s : List Char) :
    v.inspection.toList ++ r ≠ ']' :: s := by
  rcases hv.cases with hword | ⟨t, rfl⟩ | ⟨items, rfl⟩
  · exact hword.append_ne hr (by simp [marks]) s
  · simp [toList_inspection_string]
  · simp [toList_inspection_list]

theorem IsWord.readAlike {a b : Value} (ha : a.IsWord) (hb : b.Plain) : ReadAlike a b := by
  intro r s hr hs h
  rcases hb.cases with hword | ⟨t, rfl⟩ | ⟨items, rfl⟩
  · have htake := congrArg (List.takeWhile isWordChar) h
    rw [ha.takeWhile_append hr, hword.takeWhile_append hs] at htake
    refine ⟨ha.alike hword (String.toList_injective htake), ?_⟩
    rw [htake] at h
    exact List.append_cancel_left h
  · rw [toList_inspection_string] at h
    exact absurd h (ha.append_ne hr (by simp [marks]) _)
  · rw [toList_inspection_list] at h
    exact absurd h (ha.append_ne hr (by simp [marks]) _)

theorem readAlike_string (t : String) {b : Value} (hb : b.Plain) : ReadAlike (.string t) b := by
  intro r s hr hs h
  rcases hb.cases with hword | ⟨u, rfl⟩ | ⟨items, rfl⟩
  · rw [toList_inspection_string] at h
    exact absurd h.symm (hword.append_ne hs (by simp [marks]) _)
  · obtain ⟨rfl, hrs⟩ := Text.selfDelimiting_quoted h
    exact ⟨.string t, hrs⟩
  · simp [toList_inspection_string, toList_inspection_list] at h

/-! ## Lists -/

/-- The items of a list that follow another one. -/
def following (items : List Value) : List Char :=
  items.flatMap fun v => ',' :: ' ' :: v.inspection.toList

theorem endsWord_following (items : List Value) (rest : List Char) : EndsWord (following items ++ ']' :: rest) := by
  cases items with
  | nil => rfl
  | cons v vs => rfl

theorem toList_intercalate_inspections (v : Value) (vs : List Value) :
    (", ".intercalate (inspections (v :: vs))).toList = v.inspection.toList ++ following vs := by
  induction vs generalizing v with
  | nil => simp [inspections, following]
  | cons w ws ih =>
    rw [inspections, String.intercalate_cons_of_ne_nil (by simp [inspections]), String.toList_append,
      String.toList_append, ih w]
    simp [following]

section
variable {as bs : List Value} {r s : List Char}

theorem alike_following (hread : ∀ v ∈ as, ∀ w ∈ bs, ReadAlike v w)
    (h : following as ++ ']' :: r = following bs ++ ']' :: s) : List.Forall₂ Alike as bs ∧ r = s := by
  induction as generalizing bs with
  | nil =>
    cases bs with
    | nil => exact ⟨.nil, (List.cons.inj h).2⟩
    | cons w ws => simp [following] at h
  | cons v vs ih =>
    cases bs with
    | nil => simp [following] at h
    | cons w ws =>
      simp only [following, List.flatMap_cons, List.cons_append, List.append_assoc, List.cons.injEq, true_and] at h
      obtain ⟨hvw, hrest⟩ := hread v List.mem_cons_self w List.mem_cons_self (endsWord_following vs r)
        (endsWord_following ws s) h
      obtain ⟨hall, hrs⟩ := ih (fun x hx y hy => hread x (.tail _ hx) y (.tail _ hy)) hrest
      exact ⟨.cons hvw hall, hrs⟩

theorem alike_items (has : ∀ v ∈ as, v.Plain) (hbs : ∀ w ∈ bs, w.Plain)
    (hread : ∀ v ∈ as, ∀ w ∈ bs, ReadAlike v w)
    (h : (", ".intercalate (inspections as)).toList ++ ']' :: r =
      (", ".intercalate (inspections bs)).toList ++ ']' :: s) : List.Forall₂ Alike as bs ∧ r = s := by
  -- the first item has no separator before it: a bracket in its place closes an empty list
  cases as with
  | nil =>
    cases bs with
    | nil => exact ⟨.nil, (List.cons.inj h).2⟩
    | cons w ws =>
      rw [toList_intercalate_inspections, List.append_assoc] at h
      exact absurd h.symm (inspection_append_ne_close (hbs w List.mem_cons_self) (endsWord_following ws s) r)
  | cons v vs =>
    rw [toList_intercalate_inspections, List.append_assoc] at h
    cases bs with
    | nil => exact absurd h (inspection_append_ne_close (has v List.mem_cons_self) (endsWord_following vs r) s)
    | cons w ws =>
      rw [toList_intercalate_inspections, List.append_assoc] at h
      obtain ⟨hvw, hrest⟩ := hread v List.mem_cons_self w List.mem_cons_self (endsWord_following vs r)
        (endsWord_following ws s) h
      obtain ⟨hall, hrs⟩ := alike_following (fun x hx y hy => hread x (.tail _ hx) y (.tail _ hy)) hrest
      exact ⟨.cons hvw hall, hrs⟩

end

theorem readAlike_list {as : List Value} (ha : (list as).Plain)
    (ih : ∀ v ∈ as, ∀ {w : Value}, v.Plain → w.Plain → ReadAlike v w) {b : Value} (hb : b.Plain) :
    ReadAlike (.list as) b := by
  intro r s hr hs h
  rw [toList_inspection_list] at h
  rcases hb.cases with hword | ⟨u, rfl⟩ | ⟨bs, rfl⟩
  · exact absurd h.symm (hword.append_ne hs (by simp [marks]) _)
  · simp [toList_inspection_string] at h
  · simp only [toList_inspection_list, List.cons_append, List.append_assoc, List.nil_append, List.cons.injEq,
      true_and] at h
    obtain ⟨hall, hrs⟩ := alike_items ha.of_mem hb.of_mem
      (fun v hv w hw => ih v hv (ha.of_mem v hv) (hb.of_mem w hw)) h
    exact ⟨.list hall, hrs⟩

theorem readAlike {a b : Value} (ha : a.Plain) (hb : b.Plain) : ReadAlike a b := by
  induction a using induction_items generalizing b with
  | null => exact IsWord.null.readAlike hb
  | bool c => exact (IsWord.bool c).readAlike hb
  | number x => exact (IsWord.number x).readAlike hb
  | string t => exact readAlike_string t hb
  | color literal => exact absurd rfl (Everywhere.self ha).1
  | dimension size unit => exact absurd rfl (Everywhere.self ha).2
  | list items ih => exact readAlike_list ha ih hb

/-! ## Equal inspections -/

theorem Alike.inspection_eq {a b : Value} (h : Alike a b) : a.inspection = b.inspection := by
  induction a using induction_items generalizing b with
  | list items ih =>
    cases h with
    | @list _ others hall =>
      have hitems : List.Forall₂ (fun v w => v.inspection = w.inspection) items others :=
        ((List.forall₂_and_left _ _).mpr ⟨ih, hall⟩).imp fun v w hvw => hvw.1 hvw.2
      have hmap : items.map inspection = others.map inspection := by
        rw [← List.forall₂_eq_eq_eq, List.forall₂_map_left_iff, List.forall₂_map_right_iff]
        exact hitems
      rw [inspection, inspection, inspections_eq_map, inspections_eq_map, hmap]
  | number x =>
    cases h with
    | number hxy => exact hxy
  | _ => cases h <;> rfl

theorem alike_of_inspection_eq {a b : Value} (ha : a.Plain) (hb : b.Plain) (h : a.inspection = b.inspection) :
    Alike a b :=
  (readAlike ha hb (r := []) (s := []) rfl rfl (by rw [h])).1

/-- **Inspection text is unambiguous.** Values without colours and dimensions have equal inspection texts
exactly if they are alike, and no characters in a text make it look like another value. -/
theorem inspect_eq_iff_alike :
    (∀ a b : Value, a.Plain → b.Plain → (inspect a = inspect b ↔ Alike a b)) ∧
    ∀ (a : Value) (s : String), a.Plain → (inspect a = inspect (string s) ↔ a = string s) := by
  refine ⟨fun a b ha hb => ⟨alike_of_inspection_eq ha hb, Alike.inspection_eq⟩, fun a s ha => ⟨fun h => ?_, ?_⟩⟩
  · cases alike_of_inspection_eq ha (by simp [Plain, Everywhere, kind]) h
    rfl
  · rintro rfl
    rfl

/-- A text that looks like a list boundary is still one item, and two NaNs of different bits are alike. -/
theorem inspect_eq_iff_alike_boundary :
    let one := list [string "a\", \"b", number ⟨0x7ff8000000000000⟩]
    let two := list [string "a", string "b", number ⟨0x7ff8000000000000⟩]
    let other := list [string "a\", \"b", number ⟨0x7ff8000000000001⟩]
    one.Plain ∧ two.Plain ∧ other.Plain ∧ inspect one ≠ inspect two ∧ inspect one = inspect other := by
  intro one two other
  have hone : one.Plain := by simp [one, Plain, Everywhere, ItemsEverywhere, kind]
  have htwo : two.Plain := by simp [two, Plain, Everywhere, ItemsEverywhere, kind]
  have hother : other.Plain := by simp [other, Plain, Everywhere, ItemsEverywhere, kind]
  refine ⟨hone, htwo, hother, fun h => ?_, ?_⟩
  · have halike : Alike (list _) (list _) := (inspect_eq_iff_alike.1 one two hone htwo).mp h
    cases halike with
    | list hall =>
      cases hall with
      | cons _ hrest =>
        cases hrest with
        | cons hsecond _ => cases hsecond
  · exact (inspect_eq_iff_alike.1 one other hone hother).mpr
      (.list (.cons (.string _) (.cons (.number (by decide)) .nil)))

end StyleScope.Value
