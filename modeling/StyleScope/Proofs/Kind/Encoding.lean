import StyleScope.Kind

/-!
# Encodings of kinds

Every kind but a list kind has two encodings, its name and the name with null for a payload; a list kind is
encoded only by its name with an encoding of the element kind for a payload. Reading accepts exactly the
encodings, and writing chooses plain names. Neither the written form nor the text confuses two kinds.
-/

namespace StyleScope

namespace Json

mutual
/-- The plain name in place of every name with null for a payload, at any depth. -/
def plain : Json → Json
  | .array items => .array (plainItems items)
  | .object [(name, .null)] => .string name
  | .object fields => .object (plainFields fields)
  | j => j
def plainItems : List Json → List Json
  | [] => []
  | j :: js => j.plain :: plainItems js
def plainFields : List (String × Json) → List (String × Json)
  | [] => []
  | (name, j) :: fields => (name, j.plain) :: plainFields fields
end

theorem plain_of_ne_null {name : String} {payload : Json} (h : payload ≠ .null) :
    (object [(name, payload)]).plain = .object [(name, payload.plain)] := by
  rw [plain, plainFields, plainFields]
  intro name' heq
  cases heq
  exact h rfl

end Json

namespace Kind

def name : Kind → String
  | .null => "Null"
  | .bool => "Bool"
  | .number => "Number"
  | .string => "String"
  | .color => "Color"
  | .dimension => "Dimension"
  | .list _ => "List"
  | .any => "Any"

/-- Whether the kind has no payload. -/
def IsBare (k : Kind) : Prop :=
  ∀ element, k ≠ .list element

inductive Encoding : Kind → Json → Prop
  | name {k : Kind} : k.IsBare → Encoding k (.string k.name)
  | nullPayload {k : Kind} : k.IsBare → Encoding k (.object [(k.name, .null)])
  | list {element : Kind} {j : Json} : Encoding element j → Encoding (.list element) (.object [("List", j)])

/-! ## Names -/

theorem not_isBare_list (element : Kind) : ¬ (list element).IsBare :=
  fun h => h element rfl

theorem IsBare.mem_named {k : Kind} (h : k.IsBare) : (k.name, k) ∈ named := by
  cases k with
  | list element => exact absurd h (not_isBare_list element)
  | _ => simp [named, name]

theorem isBare_of_mem_named {s : String} {k : Kind} (h : (s, k) ∈ named) : k.IsBare ∧ k.name = s := by
  simp only [named, List.mem_cons, Prod.mk.injEq, List.not_mem_nil, or_false] at h
  rcases h with ⟨rfl, rfl⟩ | ⟨rfl, rfl⟩ | ⟨rfl, rfl⟩ | ⟨rfl, rfl⟩ | ⟨rfl, rfl⟩ | ⟨rfl, rfl⟩ | ⟨rfl, rfl⟩ <;>
    exact ⟨nofun, rfl⟩

theorem lookup_named_iff {s : String} {k : Kind} : named.lookup s = some k ↔ k.IsBare ∧ k.name = s := by
  constructor
  · intro h
    obtain ⟨before, after, htable, -⟩ := List.lookup_eq_some_iff.mp h
    exact isBare_of_mem_named (by simp [htable])
  · rintro ⟨h, rfl⟩
    cases k with
    | list element => exact absurd h (not_isBare_list element)
    | _ => rfl

theorem IsBare.name_ne_list {k : Kind} (h : k.IsBare) : k.name ≠ "List" := by
  cases k with
  | list element => exact absurd h (not_isBare_list element)
  | _ => decide

/-! ## Reading -/

theorem read?_of_encoding {k : Kind} {j : Json} (h : Encoding k j) : read? j = some k := by
  induction h with
  | name hk =>
    rw [read?]
    exact lookup_named_iff.mpr ⟨hk, rfl⟩
  | nullPayload hk =>
    rw [read?, if_neg hk.name_ne_list]
    exact lookup_named_iff.mpr ⟨hk, rfl⟩
  | list _ ih =>
    unfold read?
    simp [ih]

theorem encoding_of_read? {j : Json} {k : Kind} (h : read? j = some k) : Encoding k j := by
  fun_induction read? j generalizing k with
  | case1 s =>
    obtain ⟨hk, rfl⟩ := lookup_named_iff.mp h
    exact .name hk
  | case2 payload ih =>
    obtain ⟨element, helement, rfl⟩ := Option.map_eq_some_iff.mp h
    exact .list (ih helement)
  | case3 s _ =>
    obtain ⟨hk, rfl⟩ := lookup_named_iff.mp h
    exact .nullPayload hk
  | case4 => cases h
  | case5 => cases h

theorem read?_eq_some_iff {j : Json} {k : Kind} : read? j = some k ↔ Encoding k j :=
  ⟨encoding_of_read?, read?_of_encoding⟩

/-! ## Writing -/

theorem IsBare.toJson_eq {k : Kind} (h : k.IsBare) : k.toJson = .string k.name := by
  cases k with
  | list element => exact absurd h (not_isBare_list element)
  | _ => rfl

theorem encoding_toJson (k : Kind) : Encoding k k.toJson := by
  induction k with
  | list element ih => exact .list ih
  | _ => exact .name nofun

theorem read?_toJson (k : Kind) : read? k.toJson = some k :=
  read?_of_encoding (encoding_toJson k)

theorem toJson_injective {a b : Kind} (h : a.toJson = b.toJson) : a = b := by
  apply Option.some.inj
  rw [← read?_toJson a, h, read?_toJson]

theorem Encoding.ne_null {k : Kind} {j : Json} (h : Encoding k j) : j ≠ .null := by
  cases h <;> simp

theorem Encoding.plain_eq {k : Kind} {j : Json} (h : Encoding k j) : j.plain = k.toJson := by
  induction h with
  | name hk =>
    rw [hk.toJson_eq]
    rfl
  | nullPayload hk =>
    rw [hk.toJson_eq]
    rfl
  | list helement ih => rw [Json.plain_of_ne_null helement.ne_null, ih, toJson]

/-! ## Texts -/

theorem mem_toList_text_iff {k : Kind} : '<' ∈ k.text.toList ↔ ¬ k.IsBare := by
  cases k with
  | list element => simp [text, not_isBare_list]
  | _ => simp [text, IsBare]

theorem text_list_ne {element k : Kind} (hk : k.IsBare) : (list element).text ≠ k.text := by
  intro h
  have hmem : '<' ∈ (list element).text.toList := mem_toList_text_iff.mpr (not_isBare_list element)
  rw [h] at hmem
  exact mem_toList_text_iff.mp hmem hk

theorem IsBare.eq_of_text_eq {a b : Kind} (ha : a.IsBare) (hb : b.IsBare) (h : a.text = b.text) : a = b := by
  have htable : ∀ p ∈ named, ∀ q ∈ named, p.2.text = q.2.text → p.2 = q.2 := by decide
  exact htable _ ha.mem_named _ hb.mem_named h

theorem text_injective {a b : Kind} (h : a.text = b.text) : a = b := by
  induction a generalizing b with
  | list element ih =>
    cases b with
    | list element' =>
      have hchars : element.text.toList = element'.text.toList := by
        simpa [text] using congrArg String.toList h
      rw [ih (String.toList_injective hchars)]
    | _ => exact absurd h (text_list_ne nofun)
  | _ =>
    cases b with
    | list element' => exact absurd h.symm (text_list_ne nofun)
    | _ => exact IsBare.eq_of_text_eq nofun nofun h

/-- **Reading accepts exactly the encodings.** Writing gives the encoding without null payloads, from which the
kind is read back, and both the text and the written form tell kinds apart. -/
theorem reads_encodings_and_forms_tell_kinds_apart :
    (∀ (j : Json) (k : Kind), read? j = some k ↔ Encoding k j) ∧
    (∀ k : Kind, Encoding k k.toJson ∧ read? k.toJson = some k) ∧
    (∀ (j : Json) (k : Kind), read? j = some k → k.toJson = j.plain) ∧
    ∀ a b : Kind, ((a == b) = true ↔ a.text = b.text) ∧ ((a == b) = true ↔ a.toJson = b.toJson) := by
  refine ⟨fun j k => read?_eq_some_iff, fun k => ⟨encoding_toJson k, read?_toJson k⟩, fun j k h => ?_,
    fun a b => ⟨?_, ?_⟩⟩
  · exact (encoding_of_read? h).plain_eq.symm
  · rw [beq_iff_eq]
    exact ⟨congrArg text, text_injective⟩
  · rw [beq_iff_eq]
    exact ⟨congrArg toJson, toJson_injective⟩

/-- A colour with a null payload, two lists deep. -/
theorem reads_encodings_and_forms_tell_kinds_apart_nested :
    let j : Json := .object [("List", .object [("List", .object [("Color", .null)])])]
    read? j = some (.list (.list .color)) ∧ (list (list color)).toJson = j.plain ∧
      j.plain = .object [("List", .object [("List", .string "Color")])] := by
  intro j
  have h : read? j = some (.list (.list .color)) := by decide
  exact ⟨h, reads_encodings_and_forms_tell_kinds_apart.2.2.1 j _ h, rfl⟩

end Kind

end StyleScope
