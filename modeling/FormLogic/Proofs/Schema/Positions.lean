/-
  FormLogic.Proofs.Schema.Positions

  The places of a form and of a document that stands for it.

  An item has parts: the sub-fields and the template of a field, the items of
  a group.  A position leads down from a form part by part, each time by the
  name of a list and a place in it, and down from a document in the same way.

    * `Item.partsInduction` — what holds of an item as soon as it does of its
      parts holds of every item.
    * `Item.Hereditary` — a relation of documents and items that goes on to
      the parts, and so down to every position.
    * `Item.hereditary_readFrom` — each part was read from the entry of the
      document in its place.
    * `Item.hereditary_writtenAs` — each part is written as the entry in its
      place.
-/

import FormLogic.Proofs.Json.Ordered
import FormLogic.Proofs.Schema.Writing

namespace FormLogic

/-! ## Parts -/

/-- The items in a list of an item: sub-fields and template of a field, the items of a group. -/
def Item.parts : Item → String → List Item
  | .field f, "fields" => f.fields.map .field
  | .field f, "itemSchema" => f.itemSchema.getD []
  | .group _ items, "fields" => items
  | _, _ => []

theorem Item.sizeOf_lt_of_mem_parts {i j : Item} {name : String} (h : j ∈ i.parts name) :
    sizeOf j < sizeOf i := by
  rw [Item.parts.eq_def] at h
  split at h
  · next f =>
    obtain ⟨g, hg, rfl⟩ := List.mem_map.mp h
    have hlt := List.sizeOf_lt_of_mem hg
    cases f
    simp only [Item.field.sizeOf_spec, Field.mk.sizeOf_spec] at hlt ⊢
    omega
  · next f =>
    obtain ⟨info, _ | items, fields⟩ := f
    · cases h
    · have hlt : sizeOf j < sizeOf items := List.sizeOf_lt_of_mem h
      simp only [Item.field.sizeOf_spec, Field.mk.sizeOf_spec, Option.some.sizeOf_spec]
      omega
  · next info items =>
    have hlt := List.sizeOf_lt_of_mem h
    simp only [Item.group.sizeOf_spec]
    omega
  · cases h

/-- What holds of an item as soon as it does of its parts holds of every item. -/
theorem Item.partsInduction {P : Item → Prop}
    (step : ∀ i, (∀ name, ∀ j ∈ i.parts name, P j) → P i) (i : Item) : P i :=
  step i fun _ j _ => Item.partsInduction step j
termination_by sizeOf i
decreasing_by exact Item.sizeOf_lt_of_mem_parts ‹_›

/-- A place below an item: from each item on the way down the name of a list and a place in it. -/
abbrev Position := List (String × Nat)

/-- The item at a position below an item. -/
def Item.at? (i : Item) : Position → Option Item
  | [] => some i
  | (name, k) :: rest => (i.parts name)[k]?.bind fun j => j.at? rest

/-- The item at a position of a form. -/
def Form.at? (form : Form) : Position → Option Item
  | ("fields", k) :: rest => form.items[k]?.bind fun i => i.at? rest
  | _ => none

namespace Json

/-- The document at a position below the document of an item. -/
def itemAt? (v : Json) : Position → Option Json
  | [] => some v
  | (name, k) :: rest => (v.listAt GroupInfo.fieldNames name)[k]?.bind fun w => w.itemAt? rest

/-- The document at a position of the document of a form. -/
def formAt? (v : Json) : Position → Option Json
  | [] => none
  | (name, k) :: rest => (v.listAt Form.shape.fields name)[k]?.bind fun w => w.itemAt? rest

end Json

/-! ## Relations down to a position -/

/-- A relation of documents and items is hereditary when it goes on from an item to each of its
parts, with the entry in the same place of the document. -/
def Item.Hereditary (R : Json → Item → Prop) : Prop :=
  ∀ {v : Json} {i j : Item} {name : String} {k : Nat}, R v i → (i.parts name)[k]? = some j →
    ∃ w, (v.listAt GroupInfo.fieldNames name)[k]? = some w ∧ R w j

/-- Of two lists related entry by entry, an entry of the one has its counterpart in the other. -/
theorem exists_getElem?_of_forall₂ {α β : Type} {R : α → β → Prop} {xs : List α} {ys : List β}
    (h : List.Forall₂ R xs ys) {k : Nat} {y : β} (hy : ys[k]? = some y) :
    ∃ x, xs[k]? = some x ∧ R x y := by
  induction h generalizing k with
  | nil => cases hy
  | cons hxy _ ih =>
    cases k with
    | zero =>
      obtain rfl := Option.some.inj hy
      exact ⟨_, rfl, hxy⟩
    | succ k => exact ih hy

theorem exists_mem_of_forall₂ {α β : Type} {R : α → β → Prop} {xs : List α} {ys : List β}
    (h : List.Forall₂ R xs ys) {y : β} (hy : y ∈ ys) : ∃ x ∈ xs, R x y := by
  obtain ⟨k, hk⟩ := List.mem_iff_getElem?.mp hy
  obtain ⟨x, hx, hxy⟩ := exists_getElem?_of_forall₂ h hk
  exact ⟨x, List.mem_of_getElem? hx, hxy⟩

section

variable {R : Json → Item → Prop} (hR : Item.Hereditary R) {v : Json} {p : Position}
include hR

/-- A hereditary relation holds at every position below an item. -/
theorem Item.Hereditary.at? {i j : Item} (h : R v i) (hj : i.at? p = some j) :
    ∃ w, v.itemAt? p = some w ∧ R w j := by
  induction p generalizing v i with
  | nil =>
    obtain rfl := Option.some.inj hj
    exact ⟨v, rfl, h⟩
  | cons step rest ih =>
    obtain ⟨name, k⟩ := step
    obtain ⟨i', hi', hj⟩ := Option.bind_eq_some_iff.mp hj
    obtain ⟨w, hw, hRw⟩ := hR h hi'
    obtain ⟨w', hw', hRw'⟩ := ih hRw hj
    exact ⟨w', by rw [Json.itemAt?, hw]; exact hw', hRw'⟩

/-- A hereditary relation holds at every position of a form if it does of the items. -/
theorem Item.Hereditary.formAt? {form : Form} {i : Item}
    (h : List.Forall₂ R (v.listAt Form.shape.fields "fields") form.items)
    (hi : form.at? p = some i) : ∃ w, v.formAt? p = some w ∧ R w i := by
  rw [Form.at?.eq_def] at hi
  split at hi
  · next k rest =>
    obtain ⟨j, hj, hi⟩ := Option.bind_eq_some_iff.mp hi
    obtain ⟨w, hw, hRw⟩ := exists_getElem?_of_forall₂ h hj
    obtain ⟨w', hw', hRw'⟩ := hR.at? hRw hi
    exact ⟨w', by rw [Json.formAt?, hw]; exact hw', hRw'⟩
  · cases hi

end

/-! ## Reading -/

section

variable {names : List String} {v : Json} {name : String}

/-- What was read from the list that a record has as a member was read from the entries. -/
theorem Json.forall₂_listAt {α : Type} {w : Json} {readAll : List Json → Shaped (List α)}
    {R : Json → α → Prop} {xs : List α}
    (hall : ∀ {vs ys}, readAll vs = .ok ys → List.Forall₂ R vs ys)
    (hw : Dict.get? (v.membersAs names) name = some w) (h : w.asList.bind readAll = .ok xs) :
    List.Forall₂ R (v.listAt names name) xs := by
  rw [listAt, hw]
  cases w with
  | array vs => exact hall h
  | _ => cases h

end

/-- An item was read from a document in order. -/
def Item.ReadFrom (v : Json) (i : Item) : Prop := v.isOrdered = true ∧ Item.read? v = some i

/-- What was read from a list in order was read from its entries in order. -/
theorem Item.forall₂_readFrom {names : List String} {v : Json} {name : String} {items : List Item}
    (hv : v.isOrdered = true)
    (h : List.Forall₂ (fun w j => Item.read? w = some j) (v.listAt names name) items) :
    List.Forall₂ Item.ReadFrom (v.listAt names name) items :=
  (List.forall₂_and_left _ _).mpr ⟨fun _ hw => Json.isOrdered_of_mem_listAt hv hw, h⟩

/-- The parts of a field were read from the entries of its lists. -/
theorem Field.parts_of_decode {v : Json} {f : Field} (hv : v.isOrdered = true)
    (h : Field.decode v = .ok f) (name : String) : (Item.field f).parts name = []
      ∨ List.Forall₂ Item.ReadFrom (v.listAt GroupInfo.fieldNames name)
          ((Item.field f).parts name) := by
  obtain ⟨members, d, rfl, hd, hfinish⟩ := Field.decode_eq_ok h
  obtain ⟨_, _, -, -, rfl⟩ := Field.Draft.finish_eq_ok_iff.mp hfinish
  have hparts := Field.isTable.readMember_of_readMembers (Json.isOrdered_object.mp hv).1.nodup hd
  simp only [Field.table, List.forall_mem_cons, List.not_mem_nil, false_imp_iff, implies_true,
    and_true] at hparts
  obtain ⟨-, -, -, -, -, -, -, -, -, -, -, -, -, -, htemplate, hfields⟩ := hparts
  rw [Item.parts.eq_def]
  split
  · next heq =>
    obtain rfl := Item.field.inj heq
    rcases Json.readMember_eq_ok_iff.mp hfields with ⟨-, hnil⟩ | ⟨w, hw, hread⟩
    · left
      simp [hnil]
    · right
      refine Item.forall₂_readFrom hv
        (List.forall₂_map_right_iff.mpr (Json.forall₂_listAt ?_ hw hread))
      intro vs fs hall
      exact (Field.readAll_eq_ok_iff.mp hall).imp fun _ _ hf => Item.read?_of_field hf
  · next heq =>
    obtain rfl := Item.field.inj heq
    rcases Json.readMember_eq_ok_iff.mp htemplate with ⟨-, hnone⟩ | ⟨w, hw, hread⟩
    · left
      simp [hnone]
    · cases hitems : d.itemSchema with
      | none => exact Or.inl rfl
      | some items =>
        right
        rw [hitems] at hread
        exact Item.forall₂_readFrom hv
          (Json.forall₂_listAt Item.readAll_eq_ok_iff.mp hw (Json.asOption_eq_some hread).2)
  · next heq => cases heq
  · exact Or.inl rfl

/-- The items of a group were read from the entries of its list. -/
theorem GroupInfo.parts_of_decode {v : Json} {info : GroupInfo} {items : List Item}
    (hv : v.isOrdered = true) (h : GroupInfo.decode v = .ok (info, items)) (name : String) :
    (Item.group info items).parts name = []
      ∨ List.Forall₂ Item.ReadFrom (v.listAt GroupInfo.fieldNames name)
          ((Item.group info items).parts name) := by
  obtain ⟨d, hd, -, hitems⟩ := GroupInfo.decode_eq_ok h
  have hparts := GroupInfo.isTable.readMember_of_readMembers
    (Json.nodup_membersAs (by decide) hv) hd
  simp only [GroupInfo.table, List.forall_mem_cons, List.not_mem_nil, false_imp_iff, implies_true,
    and_true] at hparts
  obtain ⟨-, -, hfields, -⟩ := hparts
  rw [Item.parts.eq_def]
  split
  · next heq => cases heq
  · next heq => cases heq
  · next heq =>
    obtain ⟨rfl, rfl⟩ := Item.group.inj heq
    rw [hitems] at hfields
    rcases Json.readMember_eq_ok_iff.mp hfields with ⟨-, hnone⟩ | ⟨w, hw, hread⟩
    · cases hnone
    · obtain ⟨is, his, heq⟩ := Except.map_eq_ok.mp hread
      obtain rfl := Option.some.inj heq
      exact Or.inr (Item.forall₂_readFrom hv
        (Json.forall₂_listAt Item.readAll_eq_ok_iff.mp hw his))
  · exact Or.inl rfl

/-- Each part of an item was read from the entry of the document in its place. -/
theorem Item.hereditary_readFrom : Item.Hereditary Item.ReadFrom := by
  rintro v i j name k ⟨hv, h⟩ hj
  have hparts : i.parts name = []
      ∨ List.Forall₂ Item.ReadFrom (v.listAt GroupInfo.fieldNames name) (i.parts name) := by
    rcases Item.read?_eq_some h with ⟨f, rfl, hf⟩ | ⟨info, items, rfl, hg⟩
    · exact Field.parts_of_decode hv hf name
    · exact GroupInfo.parts_of_decode hv hg name
  rcases hparts with hnil | hfrom
  · simp [hnil] at hj
  · exact exists_getElem?_of_forall₂ hfrom hj

/-- The items of a form were read from the entries of its list. -/
theorem Form.forall₂_readFrom {v : Json} {form : Form} (hv : v.isOrdered = true)
    (h : Form.decode v = .ok form) :
    List.Forall₂ Item.ReadFrom (v.listAt Form.shape.fields "fields") form.items := by
  obtain ⟨d, hd, hitems, -⟩ := Form.decode_eq_ok h
  have hparts := Form.isTable.readMember_of_readMembers (Json.nodup_membersAs (by decide) hv) hd
  simp only [Form.table, List.forall_mem_cons, List.not_mem_nil, false_imp_iff, implies_true,
    and_true] at hparts
  obtain ⟨-, -, -, hfields⟩ := hparts
  rw [hitems] at hfields
  rcases Json.readMember_eq_ok_iff.mp hfields with ⟨-, hnone⟩ | ⟨w, hw, hread⟩
  · cases hnone
  · obtain ⟨is, his, heq⟩ := Except.map_eq_ok.mp hread
    obtain rfl := Option.some.inj heq
    exact Item.forall₂_readFrom hv (Json.forall₂_listAt Item.readAll_eq_ok_iff.mp hw his)

/-! ## Writing -/

/-- An item that was read from some document is written as a document. -/
def Item.WrittenAs (w : Json) (i : Item) : Prop := i.encode = .ok w ∧ ∃ v, i.ReadFrom v

/-- The parts of a field are written as the entries of its lists. -/
theorem Field.parts_of_encode {f : Field} {w : Json}
    (hextras : ∀ m ∈ f.info.extras, m.1 ∉ Field.propertyNames) (h : f.encode = .ok w)
    (name : String) : (Item.field f).parts name = []
      ∨ List.Forall₂ (fun u j => j.encode = .ok u) (w.listAt GroupInfo.fieldNames name)
          ((Item.field f).parts name) := by
  obtain ⟨members, template, fields, hmembers, htemplate, hfields, rfl⟩ := Field.encode_eq_ok h
  obtain ⟨hnotemplate, hnofields⟩ := Field.get?_encode hextras hmembers
  rw [Item.parts.eq_def]
  split
  · next heq =>
    obtain rfl := Item.field.inj heq
    right
    have hlist : Json.listAt GroupInfo.fieldNames (.ofMembers (members
        ++ Json.optionalMember "itemSchema" .array template
        ++ Json.listMember "fields" .array fields)) "fields" = fields := by
      rw [Json.listAt_ofMembers]
      cases fields <;> simp [hnofields, Json.items?]
    rw [hlist, List.forall₂_map_right_iff]
    refine (Field.encodeAll_eq_ok_iff.mp hfields).flip.imp fun u g hg => ?_
    rw [Item.encode, hg]
  · next heq =>
    obtain rfl := Item.field.inj heq
    cases hitems : f.itemSchema with
    | none => exact Or.inl rfl
    | some items =>
      right
      rw [hitems, Option.mapM_some] at htemplate
      obtain ⟨ws, hws, rfl⟩ := Except.map_eq_ok.mp htemplate
      have hlist : Json.listAt GroupInfo.fieldNames (.ofMembers (members
          ++ Json.optionalMember "itemSchema" .array (some ws)
          ++ Json.listMember "fields" .array fields)) "itemSchema" = ws := by
        rw [Json.listAt_ofMembers]
        simp [Json.items?]
      rw [hlist]
      exact (Item.encodeAll_eq_ok_iff.mp hws).flip
  · next heq => cases heq
  · exact Or.inl rfl

/-- The items of a group are written as the entries of its list. -/
theorem GroupInfo.parts_of_encode {info : GroupInfo} {items : List Item} {w : Json}
    (h : (Item.group info items).encode = .ok w) (name : String) :
    (Item.group info items).parts name = []
      ∨ List.Forall₂ (fun u j => j.encode = .ok u) (w.listAt GroupInfo.fieldNames name)
          ((Item.group info items).parts name) := by
  rw [Item.encode] at h
  obtain ⟨ws, hws, heq⟩ := Except.bind_eq_ok.mp h
  obtain rfl := Except.ok.inj heq
  rw [Item.parts.eq_def]
  split
  · next heq => cases heq
  · next heq => cases heq
  · next heq =>
    obtain ⟨rfl, rfl⟩ := Item.group.inj heq
    right
    have hlist : Json.listAt GroupInfo.fieldNames
        (.ofMembers (info.encode ++ [("fields", .array ws)])) "fields" = ws := by
      rw [Json.listAt_ofMembers]
      simp [Json.items?]
    rw [hlist]
    exact (Item.encodeAll_eq_ok_iff.mp hws).flip
  · exact Or.inl rfl

/-- Each part of an item is written as the entry of the document in its place. -/
theorem Item.hereditary_writtenAs : Item.Hereditary Item.WrittenAs := by
  rintro w i j name k ⟨hw, v, hread⟩ hj
  -- that the item was read keeps its extras out of the way of its lists
  obtain ⟨v', -, hread'⟩ := Item.hereditary_readFrom hread hj
  have hparts : i.parts name = []
      ∨ List.Forall₂ (fun u j => j.encode = .ok u) (w.listAt GroupInfo.fieldNames name)
          (i.parts name) := by
    rcases Item.read?_eq_some hread.2 with ⟨f, rfl, hf⟩ | ⟨info, items, rfl, -⟩
    · rw [Item.encode] at hw
      exact Field.parts_of_encode (Field.undeclared_of_decode hf) hw name
    · exact GroupInfo.parts_of_encode hw name
  rcases hparts with hnil | hto
  · simp [hnil] at hj
  · obtain ⟨u, hu, hencode⟩ := exists_getElem?_of_forall₂ hto hj
    exact ⟨u, hu, hencode, v', hread'⟩

/-- The items of a form are written as the entries of its list. -/
theorem Form.forall₂_writtenAs {v w : Json} {form : Form} (hv : v.isOrdered = true)
    (h : Form.decode v = .ok form) (hw : form.encode = .ok w) :
    List.Forall₂ Item.WrittenAs (w.listAt Form.shape.fields "fields") form.items := by
  obtain ⟨ws, hws, heq⟩ := Except.bind_eq_ok.mp hw
  obtain rfl := Except.ok.inj heq
  have hlist : Json.listAt Form.shape.fields (.ofMembers
      (Json.optionalMember "id" .string form.id ++ Json.optionalMember "title" .string form.title
        ++ Json.optionalMember "description" .string form.description
        ++ [("fields", .array ws)])) "fields" = ws := by
    rw [Json.listAt_ofMembers]
    simp [Json.items?]
  have hread : ∀ i ∈ form.items, ∃ v, Item.ReadFrom v i := by
    intro i hi
    obtain ⟨u, -, hu⟩ := exists_mem_of_forall₂ (Form.forall₂_readFrom hv h) hi
    exact ⟨u, hu⟩
  rw [hlist]
  exact ((List.forall₂_and_left _ _).mpr ⟨hread, Item.encodeAll_eq_ok_iff.mp hws⟩).flip.imp
    fun _ _ hi => hi.symm

end FormLogic
