/-
  FormLogic.Proofs.Schema.RoundTrip

  Forms written and read back.

  What was read from a document is written as a document that it is read from
  again.  The document has to be in order, which every document read from
  text is (`Json.isOrdered_of_parse`): a field keeps the members that are no
  properties of it in the order in which they stood.  The induction is on the
  items of the form, each of which was read from a part of the document: its
  parts are written and read back, and so is it, as a field if it is one and
  else as a group, which has no name and so reads as no field.

    * `Field.decode_encode` — a field whose parts are read back.
    * `Item.read?_encode_group` — a group whose items are read back.
    * `Item.encode_of_readFrom` — an item that was read.
    * `Form.decode_encode_of_decode` — a form that was read is read back, and
      the members that are no properties of a field are written as they were.
-/

import FormLogic.Proofs.Schema.Positions
import FormLogic.Proofs.Schema.Rules
import FormLogic.Proofs.Schema.Same

namespace FormLogic

/-! ## Lists -/

/-- A list of items is written and read back where each of them is. -/
theorem Item.encodeAll_of_encode {items : List Item}
    (h : ∀ i ∈ items, ∃ w, i.encode = .ok w ∧ Item.read? w = some i) :
    ∃ ws, Item.encodeAll items = .ok ws ∧ Item.readAll ws = .ok items := by
  induction items with
  | nil => exact ⟨[], rfl, rfl⟩
  | cons i is ih =>
    obtain ⟨w, hw, hread⟩ := h i List.mem_cons_self
    obtain ⟨ws, hws, hreadAll⟩ := ih fun j hj => h j (List.mem_cons_of_mem _ hj)
    refine ⟨w :: ws, ?_, ?_⟩
    · rw [Item.encodeAll, hw, hws]
      rfl
    · rw [Item.readAll_eq_ok_iff] at hreadAll ⊢
      exact List.Forall₂.cons hread hreadAll

/-- A list of fields is written and read back where each of them is. -/
theorem Field.encodeAll_of_encode {fs : List Field}
    (h : ∀ f ∈ fs, ∃ w, f.encode = .ok w ∧ Field.decode w = .ok f) :
    ∃ ws, Field.encodeAll fs = .ok ws ∧ Field.readAll ws = .ok fs := by
  induction fs with
  | nil => exact ⟨[], rfl, rfl⟩
  | cons f fs ih =>
    obtain ⟨w, hw, hread⟩ := h f List.mem_cons_self
    obtain ⟨ws, hws, hreadAll⟩ := ih fun g hg => h g (List.mem_cons_of_mem _ hg)
    refine ⟨w :: ws, ?_, ?_⟩
    · rw [Field.encodeAll, hw, hws]
      rfl
    · rw [Field.readAll_eq_ok_iff] at hreadAll ⊢
      exact List.Forall₂.cons hread hreadAll

/-- A template is written and read back where there is one. -/
theorem Item.mapM_encodeAll {template : Option (List Item)}
    (h : ∀ items ∈ template, ∃ ws, Item.encodeAll items = .ok ws ∧ Item.readAll ws = .ok items) :
    ∃ written : Option (List Json), template.mapM Item.encodeAll = .ok written
      ∧ ∀ {object : Dict Json} {name : String}, Dict.get? object name = written.map .array →
        Json.readMember object name (Json.asOption fun v => v.asList.bind Item.readAll) none
          = .ok template := by
  cases template with
  | none => exact ⟨none, rfl, fun hget => Json.readMember_of_none hget⟩
  | some items =>
    obtain ⟨ws, hws, hread⟩ := h items rfl
    refine ⟨some ws, by rw [Option.mapM_some, hws]; rfl, fun hget => ?_⟩
    exact Json.readMember_given (.array ws) hget (Except.map_eq_ok.mpr ⟨items, hread, rfl⟩)

/-! ## Fields -/

theorem FieldKind.decode_encode (k : FieldKind) : decode k.encode = .ok k := by
  cases k <;> rfl

/-- The properties of a field are storable when they can be written without loss: the default is
not null, rules and conditions are read back, and the extras are in order and no properties. -/
structure FieldInfo.Storable (f : FieldInfo) : Prop where
  value : f.defaultValue ≠ some .null
  rules : ∀ r ∈ f.rules, Json.Survives Rules.decode Rules.encode r
  conditional : ∀ l ∈ f.conditional, Logic.decode l.encode = .ok l
  ordered : Dict.Ordered f.extras
  undeclared : ∀ m ∈ f.extras, m.1 ∉ Field.propertyNames

namespace Field

/-- A field that was read from members in order has storable properties. -/
theorem storable_of_decode {members : Dict Json} {f : Field} (hordered : Dict.Ordered members)
    (h : decode (.object members) = .ok f) : f.info.Storable := by
  have hextras := extras_eq h
  have hundeclared := undeclared_of_decode h
  obtain ⟨_, d, heq, hd, hfinish⟩ := decode_eq_ok h
  obtain rfl := Json.object.inj heq
  obtain ⟨_, _, -, -, rfl⟩ := Draft.finish_eq_ok_iff.mp hfinish
  have hparts := isTable.get_of_readMembers hd
  simp only [table, List.forall_mem_cons, List.not_mem_nil, false_imp_iff, implies_true,
    and_true] at hparts
  obtain ⟨-, -, -, -, -, hvalue, -, -, hrules, -, hconditional, -⟩ := hparts
  exact {
    value := by
      rcases hvalue with hnone | ⟨w, -, hw⟩
      · rw [hnone]
        exact (Option.some_ne_none _).symm
      · exact Json.ne_null_of_asOption hw
    rules := by
      intro r hr
      obtain ⟨w, -, hw⟩ := Json.exists_read_of_mem hrules r hr
      exact Rules.survives_of_decode hw
    conditional := by
      intro l hl
      obtain ⟨w, -, hw⟩ := Json.exists_read_of_mem hconditional l hl
      exact Logic.read_back_of_decode hw
    ordered := hextras ▸ hordered.filter _
    undeclared := hundeclared }

/-- The draft that a field is finished from. -/
def draft (f : Field) : Draft :=
  ⟨some f.info.name, some f.info.kind, f.info, f.itemSchema, f.fields⟩

/-- A field is read from members that its parts and its extras are read from. -/
theorem decode_of_parts {members : Dict Json} {f : Field} (hnodup : members.names.Nodup)
    (hparts : ∀ m ∈ table,
      Json.readMember members m.name m.read (m.get {}) = .ok (m.get f.draft))
    (hextras : otherMembers members = f.info.extras) : decode (.object members) = .ok f := by
  obtain ⟨d, hd, hparts⟩ := isTable.readMembers_of_readMember hnodup hparts
  have hextras : d.info.extras = f.info.extras := (extras_of_readMembers hd).trans hextras
  simp only [table, List.forall_mem_cons, List.not_mem_nil, false_imp_iff, implies_true,
    and_true, draft] at hparts
  refine decode_of_finish hd (Draft.finish_eq_ok_iff.mpr ⟨_, _, hparts.1, hparts.2.1, ?_⟩)
  obtain ⟨name, kind, info, itemSchema, fields⟩ := d
  obtain ⟨info', itemSchema', fields'⟩ := f
  cases info
  cases info'
  simp_all

/-- Behind the extras a property of a field is read as from its members alone. -/
theorem readMember_property {α : Type} {extras pairs : Dict Json}
    (hextras : ∀ m ∈ extras, m.1 ∉ propertyNames) {name : String} (h : name ∈ propertyNames)
    (read : Json → Shaped α) (missing : α) :
    Json.readMember (Dict.ofList (extras ++ pairs)) name read missing
      = Json.readMember (Dict.ofList pairs) name read missing := by
  rw [Json.readMember, Json.readMember, Dict.get?_ofList_append, get?_extras hextras h,
    Option.or_none]

/-- Among the members of a field the extras are those that are no properties. -/
theorem otherMembers_ofList {extras pairs : Dict Json} (hordered : Dict.Ordered extras)
    (hextras : ∀ m ∈ extras, m.1 ∉ propertyNames)
    (hpairs : ∀ name ∉ propertyNames, Dict.get? (Dict.ofList pairs) name = none) :
    otherMembers (Dict.ofList (extras ++ pairs)) = extras := by
  refine Dict.eq_of_ordered ((Dict.ordered_ofList _).filter _) hordered fun m => ?_
  have hget : m.1 ∉ propertyNames →
      (m ∈ Dict.ofList (extras ++ pairs) ↔ m ∈ extras) := by
    intro hm
    rw [← Dict.get?_eq_some_iff (Dict.ordered_ofList _).nodup, Dict.get?_ofList_append,
      hpairs m.1 hm, Option.none_or, Dict.get?_ofList hordered.nodup,
      Dict.get?_eq_some_iff hordered.nodup]
  rw [otherMembers, List.mem_filter, decide_eq_true_eq]
  exact ⟨fun h => (hget h.2).mp h.1, fun h => ⟨(hget (hextras m h)).mpr h, hextras m h⟩⟩

/-- A field with storable properties is written and read back where its template and its
sub-fields are. -/
theorem decode_encode {f : Field} (hf : f.info.Storable)
    (htemplate : ∀ items ∈ f.itemSchema,
      ∃ ws, Item.encodeAll items = .ok ws ∧ Item.readAll ws = .ok items)
    (hfields : ∃ ws, encodeAll f.fields = .ok ws ∧ readAll ws = .ok f.fields) :
    ∃ members, f.encode = .ok (.object members) ∧ decode (.object members) = .ok f := by
  obtain ⟨ws, hws, hreadAll⟩ := hfields
  obtain ⟨rules, hrules, hreadRules⟩ := Json.Survives.readMember hf.rules
  obtain ⟨template, htemplate, hreadTemplate⟩ := Item.mapM_encodeAll htemplate
  rw [encode_eq, FieldInfo.encode, hrules, htemplate, hws]
  refine ⟨_, rfl, ?_⟩
  simp only [List.append_assoc]
  refine decode_of_parts (Dict.ordered_ofList _).nodup ?_
    (otherMembers_ofList hf.ordered hf.undeclared ?_)
  · -- the extras stand in front of all properties and have none of their names
    intro m hm
    rw [readMember_property hf.undeclared (names_table ▸ List.mem_map_of_mem hm)]
    -- the members in the order of the table, each read as it was written
    revert m
    simp only [table, List.forall_mem_cons, List.not_mem_nil, false_imp_iff, implies_true,
      and_true, draft]
    refine ⟨?_, ?_, ?_, ?_, ?_, ?_, ?_, ?_, ?_, ?_, ?_, ?_, ?_, ?_, ?_, ?_⟩
    · exact Json.readMember_given (.string f.info.name) (by simp) rfl
    · exact Json.readMember_given f.info.kind.encode (by simp)
        (by rw [FieldKind.decode_encode]; rfl)
    · exact Json.readMember_text (by simp)
    · exact Json.readMember_text (by simp)
    · exact Json.readMember_text (by simp)
    · exact (Json.readMember_value (by simp)).trans
        (congrArg _ (Json.dropNull_eq_self hf.value))
    · exact Json.readMember_given (.bool f.info.required) (by simp) rfl
    · exact Json.readMember_given (.bool f.info.disabled) (by simp) rfl
    · exact hreadRules (by simp)
    · exact Json.readMember_list Json.ofTextDict (by simp) (by simp)
    · exact Logic.readMember_encode (by simp) hf.conditional
    · exact CompactConditions.readMember_encode (by simp)
    · exact CompactConditions.readMember_encode (by simp)
    · exact Json.readMember_list .array (by simp) rfl
    · exact hreadTemplate (by simp)
    · exact Json.readMember_entries (by simp) rfl hreadAll
  · -- and no property is written under another name
    intro name hname
    simp only [propertyNames, List.mem_cons, not_or, eq_comm (a := name)] at hname
    simp [hname]

/-- An object without a name is no field. -/
theorem decode_of_nameless {members : Dict Json} (h : Dict.get? members "name" = none) :
    ∃ e, decode (.object members) = .error e := by
  cases hf : decode (.object members) with
  | error e => exact ⟨e, rfl⟩
  | ok f =>
    obtain ⟨_, d, heq, hd, hfinish⟩ := decode_eq_ok hf
    obtain rfl := Json.object.inj heq
    obtain ⟨name, _, hname, -, -⟩ := Draft.finish_eq_ok_iff.mp hfinish
    have hparts := isTable.get_of_readMembers hd
    simp only [table, List.forall_mem_cons] at hparts
    rcases hparts.1 with hnone | ⟨v, hv, -⟩
    · rw [hname] at hnone
      cases hnone
    · exact absurd (Dict.mem_names_of_mem hv) (Dict.get?_eq_none_iff.mp h)

end Field

/-! ## Groups -/

/-- The conditions of a group that was read are read back. -/
theorem GroupInfo.conditional_of_decode {v : Json} {info : GroupInfo} {items : List Item}
    (h : decode v = .ok (info, items)) :
    ∀ l ∈ info.conditional, Logic.decode l.encode = .ok l := by
  obtain ⟨d, hd, rfl, -⟩ := decode_eq_ok h
  have hparts := isTable.get_of_readMembers hd
  simp only [table, List.forall_mem_cons, List.not_mem_nil, false_imp_iff, implies_true,
    and_true] at hparts
  obtain ⟨-, -, -, hconditional, -⟩ := hparts
  intro l hl
  obtain ⟨w, -, hw⟩ := Json.exists_read_of_mem hconditional l hl
  exact Logic.read_back_of_decode hw

/-- A group is read back where its conditions and its items are. -/
theorem GroupInfo.decode_encode {info : GroupInfo} {items : List Item} {ws : List Json}
    (hconditional : ∀ l ∈ info.conditional, Logic.decode l.encode = .ok l)
    (hitems : Item.readAll ws = .ok items) :
    decode (.ofMembers (info.encode ++ [("fields", .array ws)])) = .ok (info, items) := by
  rw [GroupInfo.encode]
  refine isTable.decode_ofMembers (t := ⟨info, some items⟩) ?_ ?_
  · simp only [table, List.forall_mem_cons, List.not_mem_nil, false_imp_iff, implies_true, and_true]
    refine ⟨?_, ?_, ?_, ?_, ?_⟩
    · exact Json.readMember_text (by simp)
    · exact Json.readMember_text (by simp)
    · exact Json.readMember_given (.array ws) (by simp) (Except.map_eq_ok.mpr ⟨items, hitems, rfl⟩)
    · exact Logic.readMember_encode (by simp) hconditional
    · exact CompactConditions.readMember_encode (by simp)
  · rintro ⟨info', items'⟩ - hparts
    simp only [table, List.forall_mem_cons, List.not_mem_nil, false_imp_iff, implies_true,
      and_true] at hparts
    obtain ⟨htitle, hdescription, rfl, hconditional, hvisible⟩ := hparts
    cases info
    cases info'
    simp_all

/-- A group is written as a document that is a group: without a name it reads as no field. -/
theorem Item.read?_encode_group {info : GroupInfo} {items : List Item} {ws : List Json}
    (hconditional : ∀ l ∈ info.conditional, Logic.decode l.encode = .ok l)
    (hitems : Item.readAll ws = .ok items) :
    Item.read? (.ofMembers (info.encode ++ [("fields", .array ws)]))
      = some (.group info items) := by
  have hname : Dict.get? (Dict.ofList (info.encode ++ [("fields", .array ws)])) "name" = none := by
    simp [GroupInfo.encode]
  obtain ⟨e, hfield⟩ := Field.decode_of_nameless hname
  rw [Item.read?_eq, GroupInfo.decode_encode hconditional hitems, Json.ofMembers, hfield]
  rfl

/-! ## Items -/

/-- An item that was read is written and read back, as the same kind of item. -/
theorem Item.encode_of_readFrom (i : Item) : ∀ v, i.ReadFrom v →
    ∃ w, i.encode = .ok w ∧ Item.read? w = some i := by
  induction i using Item.partsInduction with
  | step i ih =>
    rintro v ⟨hv, h⟩
    -- each part was read from an entry of the document, and so is written and read back
    have hparts : ∀ name, ∀ j ∈ i.parts name, ∃ w, j.encode = .ok w ∧ Item.read? w = some j := by
      intro name j hj
      obtain ⟨k, hk⟩ := List.mem_iff_getElem?.mp hj
      obtain ⟨w, -, hw⟩ := Item.hereditary_readFrom ⟨hv, h⟩ hk
      exact ih name j hj w hw
    rcases Item.read?_eq_some h with ⟨f, rfl, hf⟩ | ⟨info, items, rfl, hg⟩
    · obtain ⟨members, -, rfl, -, -⟩ := Field.decode_eq_ok hf
      have hstorable := Field.storable_of_decode (Json.isOrdered_object.mp hv).1 hf
      have htemplate : ∀ items ∈ f.itemSchema,
          ∃ ws, Item.encodeAll items = .ok ws ∧ Item.readAll ws = .ok items := by
        intro items hitems
        refine Item.encodeAll_of_encode fun j hj => hparts "itemSchema" j ?_
        rw [Item.parts, hitems]
        exact hj
      have hfields : ∃ ws, Field.encodeAll f.fields = .ok ws ∧ Field.readAll ws = .ok f.fields := by
        refine Field.encodeAll_of_encode fun g hg => ?_
        obtain ⟨w, hw, hread⟩ := hparts "fields" (.field g) (List.mem_map_of_mem hg)
        rw [Item.encode] at hw
        exact ⟨w, hw, Item.decode_of_read?_field hread⟩
      obtain ⟨written, hencode, hdecode⟩ := Field.decode_encode hstorable htemplate hfields
      exact ⟨_, by rw [Item.encode, hencode], Item.read?_of_field hdecode⟩
    · obtain ⟨ws, hws, hreadAll⟩ : ∃ ws, Item.encodeAll items = .ok ws
          ∧ Item.readAll ws = .ok items := Item.encodeAll_of_encode (hparts "fields")
      refine ⟨_, ?_, Item.read?_encode_group (GroupInfo.conditional_of_decode hg) hreadAll⟩
      rw [Item.encode, hws]
      rfl

/-! ## Forms -/

/-- A form whose items are read back is. -/
theorem Form.decode_encode {form : Form} {ws : List Json}
    (hitems : Item.readAll ws = .ok form.items) :
    decode (.ofMembers (Json.optionalMember "id" .string form.id
      ++ Json.optionalMember "title" .string form.title
      ++ Json.optionalMember "description" .string form.description
      ++ [("fields", .array ws)])) = .ok form := by
  refine isTable.decode_ofMembers
    (t := ⟨form.id, form.title, form.description, some form.items⟩) ?_ ?_
  · simp only [table, List.forall_mem_cons, List.not_mem_nil, false_imp_iff, implies_true, and_true]
    refine ⟨?_, ?_, ?_, ?_⟩
    · exact Json.readMember_text (by simp)
    · exact Json.readMember_text (by simp)
    · exact Json.readMember_text (by simp)
    · exact Json.readMember_given (.array ws) (by simp)
        (Except.map_eq_ok.mpr ⟨form.items, hitems, rfl⟩)
  · rintro d - hparts
    simp only [table, List.forall_mem_cons, List.not_mem_nil, false_imp_iff, implies_true,
      and_true] at hparts
    obtain ⟨hid, htitle, hdescription, hitems⟩ := hparts
    simp only [hid, htitle, hdescription, hitems]

/-- A form that was read is written and read back. -/
theorem Form.encode_of_decode {v : Json} {form : Form} (hv : v.isOrdered = true)
    (h : decode v = .ok form) : ∃ members, form.encode = .ok (.ofMembers members)
      ∧ decode (.ofMembers members) = .ok form := by
  have hitems : ∀ i ∈ form.items, ∃ w, i.encode = .ok w ∧ Item.read? w = some i := by
    intro i hi
    obtain ⟨w, -, hw⟩ := exists_mem_of_forall₂ (forall₂_readFrom hv h) hi
    exact Item.encode_of_readFrom i w hw
  obtain ⟨ws, hws, hreadAll⟩ := Item.encodeAll_of_encode hitems
  refine ⟨_, ?_, decode_encode hreadAll⟩
  rw [encode, hws]
  rfl

/-- Members that are no properties are found among these as among all. -/
theorem Field.get?_otherMembers (members : Dict Json) {name : String}
    (h : name ∉ Field.propertyNames) :
    Dict.get? (Field.otherMembers members) name = Dict.get? members name := by
  induction members with
  | nil => rfl
  | cons p rest ih =>
    obtain ⟨k, v⟩ := p
    rw [Field.otherMembers] at ih
    rw [Field.otherMembers, List.filter_cons]
    by_cases hk : k = name
    · subst hk
      simp [h, Dict.get?_cons]
    · split
      · rw [Dict.get?_cons, Dict.get?_cons, ih]
      · rw [ih, Dict.get?_cons, if_neg hk]

/-- A field of a form that was read is written, in its place, as an object with the members that
are no properties of it as they were. -/
theorem Form.otherMembers_of_encode {source written : Json} {form : Form}
    (hs : source.isOrdered = true) (h : decode source = .ok form)
    (hw : form.encode = .ok written) {p : Position} {f : Field}
    (hf : form.at? p = some (.field f)) :
    ∃ members members', source.formAt? p = some (.object members)
      ∧ written.formAt? p = some (.object members')
      ∧ Field.otherMembers members' = Field.otherMembers members := by
  obtain ⟨v, hv, hread⟩ := Item.hereditary_readFrom.formAt? (forall₂_readFrom hs h) hf
  obtain ⟨w, hwritten, hencode, -⟩ :=
    Item.hereditary_writtenAs.formAt? (forall₂_writtenAs hs h hw) hf
  -- what is written for the field is what it is read back from
  obtain ⟨w', hencode', hread'⟩ := Item.encode_of_readFrom _ v hread
  obtain rfl := Except.ok.inj (hencode.symm.trans hencode')
  have hdecode := Item.decode_of_read?_field hread.2
  have hdecode' := Item.decode_of_read?_field hread'
  obtain ⟨members, -, rfl, -, -⟩ := Field.decode_eq_ok hdecode
  obtain ⟨members', -, rfl, -, -⟩ := Field.decode_eq_ok hdecode'
  exact ⟨members, members', hv, hwritten,
    (Field.extras_eq hdecode').symm.trans (Field.extras_eq hdecode)⟩

/-! ## An order form -/

namespace OrderForm

/-- A group with a text that is asked for under conditions, and a list of amounts with a unit. -/
def document : Json :=
  .object [("fields", .array [
      .object [("fields", .array [
          .object [("hint", .string "on the label"), ("name", .string "sku"),
            ("type", .string "text"),
            ("validation", .object [("required", .object [("not", .object [
              ("field", .string "kind"), ("operator", .string "equals"),
              ("value", .string "service")])])])]]),
        ("title", .string "Goods")],
      .object [
        ("itemSchema", .array [
          .object [("name", .string "amount"), ("type", .string "number"),
            ("unit", .string "kg")]]),
        ("name", .string "lines"), ("type", .string "array")]]),
    ("id", .string "order")]

/-- The text of the group. -/
def sku : Field where
  info := { name := "sku", kind := .text, extras := [("hint", .string "on the label")],
            rules := some { required := some (.when (.not (.check
              { field := "kind", operator := .equals, value := some (.string "service") }))) } }
  itemSchema := none
  fields := []

/-- The amounts of the list. -/
def amount : Field where
  info := { name := "amount", kind := .number, extras := [("unit", .string "kg")] }
  itemSchema := none
  fields := []

/-- The form of the document. -/
def form : Form where
  id := some "order"
  items := [.group { title := some "Goods" } [.field sku],
    .field ⟨{ name := "lines", kind := .array }, some [.field amount], []⟩]

theorem isOrdered_document : document.isOrdered = true := by decide

theorem decode_document : Form.decode document = .ok form := rfl

end OrderForm

/-! ## Main statement -/

/-- A form that was read is written and read back as the same form, and wherever it has a field,
the members that are no properties of the field stand in the written document as they stood in
the one that was read. -/
theorem Form.decode_encode_of_decode {source : Json} {form : Form}
    (hs : source.isOrdered = true) (h : Form.decode source = .ok form) :
    ∃ written, form.encode = .ok written ∧ Form.decode written = .ok form
      ∧ form.same form = true
      ∧ ∀ p f, form.at? p = some (.field f) →
        ∃ members members', source.formAt? p = some (.object members)
          ∧ written.formAt? p = some (.object members')
          ∧ ∀ name, name ∉ Field.propertyNames →
            Dict.get? members' name = Dict.get? members name := by
  obtain ⟨pairs, hencode, hdecode⟩ := Form.encode_of_decode hs h
  refine ⟨_, hencode, hdecode, form.same_self, fun p f hf => ?_⟩
  obtain ⟨members, members', hv, hw, hothers⟩ := Form.otherMembers_of_encode hs h hencode hf
  refine ⟨members, members', hv, hw, fun name hname => ?_⟩
  rw [← Field.get?_otherMembers members' hname, hothers, Field.get?_otherMembers members hname]

/-- The order form is read back, its group a group and its requirement a negation, and the hint
at the text is still there. -/
theorem OrderForm.read_back : ∃ written, OrderForm.document.isOrdered = true
    ∧ Form.decode OrderForm.document = .ok OrderForm.form
    ∧ OrderForm.form.encode = .ok written ∧ Form.decode written = .ok OrderForm.form
    ∧ OrderForm.form.at? [("fields", 0), ("fields", 0)] = some (.field OrderForm.sku)
    ∧ ∃ members, written.formAt? [("fields", 0), ("fields", 0)] = some (.object members)
      ∧ Dict.get? members "hint" = some (.string "on the label") := by
  obtain ⟨written, hencode, hdecode, -, hplaces⟩ :=
    Form.decode_encode_of_decode OrderForm.isOrdered_document OrderForm.decode_document
  obtain ⟨members, members', hsource, hwritten, hget⟩ :=
    hplaces [("fields", 0), ("fields", 0)] OrderForm.sku rfl
  obtain rfl := Json.object.inj (Option.some.inj hsource)
  exact ⟨written, OrderForm.isOrdered_document, OrderForm.decode_document, hencode, hdecode, rfl,
    members', hwritten, hget "hint" (by decide)⟩

end FormLogic
