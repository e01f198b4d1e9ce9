/-
  FormLogic.Proofs.Schema.Writing

  How fields, groups and forms are written.

  Lists are written entry by entry.  A field is written with its properties,
  its template, if it has one, and its sub-fields (`Field.encode_eq`); none of
  its properties is written under the name of one of the two lists.
-/

import FormLogic.Proofs.Json.Record
import FormLogic.Proofs.Schema.Reading

namespace FormLogic

/-! ## Lists -/

/-- A list of fields is written entry by entry. -/
theorem Field.encodeAll_eq_ok_iff {fs : List Field} {ws : List Json} :
    Field.encodeAll fs = .ok ws ↔ List.Forall₂ (fun f w => f.encode = .ok w) fs ws := by
  induction fs generalizing ws with
  | nil =>
    rw [Field.encodeAll, List.forall₂_nil_left_iff]
    exact ⟨fun h => (Except.ok.inj h).symm, fun h => congrArg _ h.symm⟩
  | cons f fs ih =>
    rw [Field.encodeAll, List.forall₂_cons_left_iff]
    simp only [Except.bind_eq_ok, ih]
    constructor
    · rintro ⟨w, hw, us, hus, heq⟩
      exact ⟨w, us, hw, hus, (Except.ok.inj heq).symm⟩
    · rintro ⟨w, us, hw, hus, rfl⟩
      exact ⟨w, hw, us, hus, rfl⟩

/-- A list of items is written entry by entry. -/
theorem Item.encodeAll_eq_ok_iff {items : List Item} {ws : List Json} :
    Item.encodeAll items = .ok ws ↔ List.Forall₂ (fun i w => i.encode = .ok w) items ws := by
  induction items generalizing ws with
  | nil =>
    rw [Item.encodeAll, List.forall₂_nil_left_iff]
    exact ⟨fun h => (Except.ok.inj h).symm, fun h => congrArg _ h.symm⟩
  | cons i is ih =>
    rw [Item.encodeAll, List.forall₂_cons_left_iff]
    simp only [Except.bind_eq_ok, ih]
    constructor
    · rintro ⟨w, hw, us, hus, heq⟩
      exact ⟨w, us, hw, hus, (Except.ok.inj heq).symm⟩
    · rintro ⟨w, us, hw, hus, rfl⟩
      exact ⟨w, hw, us, hus, rfl⟩

/-! ## Fields -/

namespace Field

/-- A field is written with its template, if it has one, and its sub-fields. -/
theorem encode_eq (f : Field) :
    f.encode = do
      let members ← f.info.encode
      let template ← f.itemSchema.mapM Item.encodeAll
      let fields ← encodeAll f.fields
      return .ofMembers (members ++ Json.optionalMember "itemSchema" .array template
        ++ Json.listMember "fields" .array fields) := by
  obtain ⟨info, _ | items, fields⟩ := f
  · rw [encode]
    simp [Json.optionalMember]
  · rw [encode]
    simp [Json.optionalMember]

/-- Extras that are no properties are not found under the name of one. -/
theorem get?_extras {extras : Dict Json} (hextras : ∀ m ∈ extras, m.1 ∉ propertyNames)
    {name : String} (h : name ∈ propertyNames) : Dict.get? (Dict.ofList extras) name = none := by
  rw [Option.eq_none_iff_forall_ne_some]
  intro v hv
  exact hextras _ (Dict.mem_of_get?_ofList hv) h

/-- No property of a field is written under the name of its template or of its sub-fields. -/
theorem get?_encode {f : FieldInfo} {members : List (String × Json)}
    (hextras : ∀ m ∈ f.extras, m.1 ∉ propertyNames) (h : f.encode = .ok members) :
    Dict.get? (Dict.ofList members) "itemSchema" = none
      ∧ Dict.get? (Dict.ofList members) "fields" = none := by
  obtain ⟨rules, -, heq⟩ := Except.bind_eq_ok.mp h
  obtain rfl := Except.ok.inj heq
  have htemplate : Dict.get? (Dict.ofList f.extras) "itemSchema" = none :=
    get?_extras hextras (by decide)
  have hfields : Dict.get? (Dict.ofList f.extras) "fields" = none :=
    get?_extras hextras (by decide)
  simp [htemplate, hfields]

/-- The members that a field is written with: its extras and properties, and its two lists. -/
theorem encode_eq_ok {f : Field} {w : Json} (h : f.encode = .ok w) :
    ∃ members template fields, f.info.encode = .ok members
      ∧ f.itemSchema.mapM Item.encodeAll = .ok template ∧ encodeAll f.fields = .ok fields
      ∧ w = .ofMembers (members ++ Json.optionalMember "itemSchema" .array template
        ++ Json.listMember "fields" .array fields) := by
  rw [encode_eq] at h
  obtain ⟨members, hmembers, h⟩ := Except.bind_eq_ok.mp h
  obtain ⟨template, htemplate, h⟩ := Except.bind_eq_ok.mp h
  obtain ⟨fields, hfields, h⟩ := Except.bind_eq_ok.mp h
  exact ⟨members, template, fields, hmembers, htemplate, hfields, (Except.ok.inj h).symm⟩

end Field
end FormLogic
