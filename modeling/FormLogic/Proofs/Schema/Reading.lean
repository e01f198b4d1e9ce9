/-
  FormLogic.Proofs.Schema.Reading

  What fields, groups and forms are read from.

  The readers for fields and groups run through the members of an object;
  they are the readers of records with a table each (`Field.isTable`,
  `GroupInfo.isTable`, `Form.isTable`).  So what a field, a group or a form
  has is read from the member of its name, and the members of a field that
  are no properties of it are its extras, in the order of the document
  (`Field.extras_eq`).
-/

import FormLogic.Schema.Codec
import FormLogic.Proofs.Json.Record

namespace FormLogic

/-! ## Lists -/

theorem Field.decode_object (members : Dict Json) :
    Field.decode (.object members)
      = (Field.readMembers {} members).bind Field.Draft.finish := rfl

/-- A list of fields is read entry by entry. -/
theorem Field.readAll_eq_ok_iff {vs : List Json} {fs : List Field} :
    Field.readAll vs = .ok fs ↔ List.Forall₂ (fun v f => Field.decode v = .ok f) vs fs := by
  induction vs generalizing fs with
  | nil =>
    rw [Field.readAll, List.forall₂_nil_left_iff]
    exact ⟨fun h => (Except.ok.inj h).symm, fun h => congrArg _ h.symm⟩
  | cons v vs ih =>
    have hcons : Field.readAll (v :: vs)
        = (Field.decode v).bind fun f => (Field.readAll vs).map fun fs => f :: fs := by
      cases v with
      | object members =>
        rw [Field.readAll, Field.decode_object]
        cases (Field.readMembers {} members).bind Field.Draft.finish with
        | error e => rfl
        | ok f =>
          cases Field.readAll vs with
          | error e => rfl
          | ok gs => rfl
      | _ => rfl
    rw [hcons, List.forall₂_cons_left_iff]
    refine Except.bind_eq_ok.trans ⟨?_, ?_⟩
    · rintro ⟨f, hf, h⟩
      obtain ⟨gs, hgs, rfl⟩ := Except.map_eq_ok.mp h
      exact ⟨f, gs, hf, ih.mp hgs, rfl⟩
    · rintro ⟨f, gs, hf, hgs, rfl⟩
      exact ⟨f, hf, Except.map_eq_ok.mpr ⟨gs, ih.mpr hgs, rfl⟩⟩

/-- A list of items is read entry by entry. -/
theorem Item.readAll_eq_ok_iff {vs : List Json} {items : List Item} :
    Item.readAll vs = .ok items ↔ List.Forall₂ (fun v i => Item.read? v = some i) vs items := by
  induction vs generalizing items with
  | nil =>
    rw [Item.readAll, List.forall₂_nil_left_iff]
    exact ⟨fun h => (Except.ok.inj h).symm, fun h => congrArg _ h.symm⟩
  | cons v vs ih =>
    rw [Item.readAll, List.forall₂_cons_left_iff]
    constructor
    · intro h
      split at h
      · cases h
      · next i hi =>
        split at h
        · cases h
        · next is his =>
          obtain rfl := Except.ok.inj h
          exact ⟨i, is, hi, ih.mp his, rfl⟩
    · rintro ⟨i, is, hi, his, rfl⟩
      simp only [hi, ih.mpr his]

/-! ## Fields -/

namespace Field

/-- How a field is read. -/
def shape : Json.RecordShape Draft where
  name := "FieldSpec"
  fields := []
  read := readMember

theorem readMembers_eq (d : Draft) (members : Dict Json) :
    readMembers d members = shape.readMembers d members := by
  induction members generalizing d with
  | nil =>
    rw [readMembers]
    rfl
  | cons p rest ih =>
    obtain ⟨name, v⟩ := p
    show readMembers d ((name, v) :: rest)
      = readMember d name v >>= fun d => shape.readMembers d rest
    rw [readMembers]
    cases h : readMember d name v with
    | ok d => exact ih d
    | error e => rfl

/-- The members of a field. -/
def table : List (Json.Member Draft) := [
  ⟨_, "name", Draft.name, fun d x => { d with name := x }, fun v => v.asString.map some⟩,
  ⟨_, "type", Draft.kind, fun d x => { d with kind := x }, fun v => (FieldKind.decode v).map some⟩,
  ⟨_, "label", fun d => d.info.label,
    fun d x => { d with info := { d.info with label := x } }, Json.asOption Json.asString⟩,
  ⟨_, "description", fun d => d.info.description,
    fun d x => { d with info := { d.info with description := x } }, Json.asOption Json.asString⟩,
  ⟨_, "placeholder", fun d => d.info.placeholder,
    fun d x => { d with info := { d.info with placeholder := x } }, Json.asOption Json.asString⟩,
  ⟨_, "defaultValue", fun d => d.info.defaultValue,
    fun d x => { d with info := { d.info with defaultValue := x } }, Json.asOption .ok⟩,
  ⟨_, "required", fun d => d.info.required,
    fun d x => { d with info := { d.info with required := x } }, Json.asBool⟩,
  ⟨_, "disabled", fun d => d.info.disabled,
    fun d x => { d with info := { d.info with disabled := x } }, Json.asBool⟩,
  ⟨_, "validation", fun d => d.info.rules,
    fun d x => { d with info := { d.info with rules := x } }, Json.asOption Rules.decode⟩,
  ⟨_, "validationMessages", fun d => d.info.messages,
    fun d x => { d with info := { d.info with messages := x } }, Json.asTexts⟩,
  ⟨_, "conditional", fun d => d.info.conditional,
    fun d x => { d with info := { d.info with conditional := x } }, Json.asOption Logic.decode⟩,
  ⟨_, "visibleWhen", fun d => d.info.visibleWhen,
    fun d x => { d with info := { d.info with visibleWhen := x } },
    Json.asOption CompactConditions.decode⟩,
  ⟨_, "disabledWhen", fun d => d.info.disabledWhen,
    fun d x => { d with info := { d.info with disabledWhen := x } },
    Json.asOption CompactConditions.decode⟩,
  ⟨_, "options", fun d => d.info.options,
    fun d x => { d with info := { d.info with options := x } }, Json.asList⟩,
  ⟨_, "itemSchema", Draft.itemSchema, fun d x => { d with itemSchema := x },
    Json.asOption fun v => v.asList.bind Item.readAll⟩,
  ⟨_, "fields", Draft.fields, fun d x => { d with fields := x },
    fun v => v.asList.bind readAll⟩]

/-- A member that is no property of a field is kept. -/
def keep (d : Draft) (name : String) (v : Json) : Draft :=
  { d with info := { d.info with extras := d.info.extras ++ [(name, v)] } }

/-- Members other than the sub-fields and the template are read from lists as from anything. -/
theorem readMember_eq_read {name : String} (hfields : name ≠ "fields")
    (htemplate : name ≠ "itemSchema") (d : Draft) (v : Json) :
    readMember d name v = d.read name v := by
  cases v <;> rw [readMember.eq_def] <;> simp only

theorem readMember_fields (d : Draft) (v : Json) :
    readMember d "fields" v = (v.asList.bind readAll).map fun fs => { d with fields := fs } := by
  cases v <;> rfl

theorem readMember_itemSchema (d : Draft) (v : Json) :
    readMember d "itemSchema" v = (Json.asOption (fun v => v.asList.bind Item.readAll) v).map
      fun items => { d with itemSchema := items } := by
  cases v with
  | array items =>
    rw [readMember.eq_def]
    simp [Json.asOption, Json.asList, Except.map_map, Except.bind]
  | _ => rfl

theorem isTable : Json.Table shape table keep where
  read_member := by
    simp only [table, List.forall_mem_cons, List.not_mem_nil, false_imp_iff, implies_true,
      and_true, shape]
    simp [readMember_eq_read, readMember_fields, readMember_itemSchema, Draft.read, Except.map_map]
  read_other := by
    intro d name v h
    simp only [table, List.map_cons, List.map_nil, List.mem_cons, not_or] at h
    show readMember d name v = .ok (keep d name v)
    rw [readMember_eq_read (by simp_all) (by simp_all), Draft.read.eq_def]
    simp only
    split <;> simp_all [keep]
  get_set := by simp [table]
  get_set_of_ne := by simp [table]
  get_other := by simp [table, keep]

/-- The names of the properties of a field. -/
def propertyNames : List String :=
  ["name", "type", "label", "description", "placeholder", "defaultValue", "required", "disabled",
    "validation", "validationMessages", "conditional", "visibleWhen", "disabledWhen", "options",
    "itemSchema", "fields"]

theorem names_table : table.map Json.Member.name = propertyNames := rfl

/-- The members of an object that are no properties of a field. -/
def otherMembers (members : Dict Json) : Dict Json :=
  members.filter fun m => m.1 ∉ propertyNames

/-- Members that are no properties are kept, in order, behind those there are. -/
theorem extras_of_readMembers {members : Dict Json} {d d' : Draft}
    (h : shape.readMembers d members = .ok d') :
    d'.info.extras = d.info.extras ++ otherMembers members := by
  induction members generalizing d with
  | nil =>
    obtain rfl := Except.ok.inj h
    exact (List.append_nil _).symm
  | cons p rest ih =>
    obtain ⟨name, v⟩ := p
    obtain ⟨d₁, hread, hrest⟩ := Json.Table.readMembers_cons.mp h
    rw [ih hrest, otherMembers, otherMembers, List.filter_cons]
    -- a property leaves the extras alone, and anything else is one more of them
    by_cases hname : name ∈ table.map Json.Member.name
    · obtain ⟨m, hm, rfl⟩ := List.mem_map.mp hname
      rw [isTable.read_member m hm] at hread
      obtain ⟨x, -, rfl⟩ := Except.map_eq_ok.mp hread
      have hset : ∀ m ∈ table, ∀ d x, (m.set d x).info.extras = d.info.extras := by simp [table]
      rw [hset m hm d x, if_neg (by simpa [names_table] using hname)]
    · rw [isTable.read_other d name v hname] at hread
      obtain rfl := Except.ok.inj hread
      rw [if_pos (by simpa [names_table] using hname), keep, List.append_assoc]
      rfl

/-- A field is the finished draft of the members of an object. -/
theorem decode_eq_ok {v : Json} {f : Field} (h : decode v = .ok f) :
    ∃ members d, v = .object members ∧ shape.readMembers {} members = .ok d
      ∧ d.finish = .ok f := by
  cases v with
  | object members =>
    rw [decode_object, readMembers_eq] at h
    obtain ⟨d, hd, hfinish⟩ := Except.bind_eq_ok.mp h
    exact ⟨members, d, rfl, hd, hfinish⟩
  | _ => cases h

theorem decode_of_finish {members : Dict Json} {d : Draft} {f : Field}
    (hd : shape.readMembers {} members = .ok d) (hfinish : d.finish = .ok f) :
    decode (.object members) = .ok f := by
  rw [decode_object, readMembers_eq, hd]
  exact hfinish

/-- What a finished draft of a field has in it. -/
theorem Draft.finish_eq_ok_iff {d : Draft} {f : Field} :
    d.finish = .ok f ↔ ∃ name kind, d.name = some name ∧ d.kind = some kind
      ∧ f = ⟨{ d.info with name, kind }, d.itemSchema, d.fields⟩ := by
  rw [finish]
  constructor
  · intro h
    split at h
    · next name kind hname hkind => exact ⟨name, kind, hname, hkind, (Except.ok.inj h).symm⟩
    · cases h
    · cases h
  · rintro ⟨name, kind, hname, hkind, rfl⟩
    simp only [hname, hkind]

/-- The extras of a field are the members of its object that are no properties. -/
theorem extras_eq {members : Dict Json} {f : Field} (h : decode (.object members) = .ok f) :
    f.info.extras = otherMembers members := by
  obtain ⟨_, d, heq, hd, hfinish⟩ := decode_eq_ok h
  obtain rfl := Json.object.inj heq
  obtain ⟨name, kind, -, -, rfl⟩ := Draft.finish_eq_ok_iff.mp hfinish
  exact extras_of_readMembers hd

/-- The extras of a field that was read are no properties. -/
theorem undeclared_of_decode {v : Json} {f : Field} (h : decode v = .ok f) :
    ∀ m ∈ f.info.extras, m.1 ∉ propertyNames := by
  obtain ⟨members, -, rfl, -, -⟩ := decode_eq_ok h
  intro m hm
  rw [extras_eq h] at hm
  simpa using (List.mem_filter.mp hm).2

end Field

/-! ## Groups -/

namespace GroupInfo

/-- The members of a group. -/
def table : List (Json.Member Draft) := [
  ⟨_, "title", fun d => d.info.title,
    fun d x => { d with info := { d.info with title := x } }, Json.asOption Json.asString⟩,
  ⟨_, "description", fun d => d.info.description,
    fun d x => { d with info := { d.info with description := x } }, Json.asOption Json.asString⟩,
  ⟨_, "fields", Draft.items, fun d x => { d with items := x },
    fun v => (v.asList.bind Item.readAll).map some⟩,
  ⟨_, "conditional", fun d => d.info.conditional,
    fun d x => { d with info := { d.info with conditional := x } }, Json.asOption Logic.decode⟩,
  ⟨_, "visibleWhen", fun d => d.info.visibleWhen,
    fun d x => { d with info := { d.info with visibleWhen := x } },
    Json.asOption CompactConditions.decode⟩]

theorem readGroupMember_eq_read {name : String} (hfields : name ≠ "fields") (d : Draft)
    (v : Json) : Item.readGroupMember d name v = d.read name v := by
  cases v <;> rw [Item.readGroupMember.eq_def] <;> simp only

theorem readGroupMember_fields (d : Draft) (v : Json) :
    Item.readGroupMember d "fields" v
      = (v.asList.bind Item.readAll).map fun items => { d with items := some items } := by
  cases v <;> rfl

theorem isTable : Json.Table shape table fun d _ _ => d where
  read_member := by
    simp only [table, List.forall_mem_cons, List.not_mem_nil, false_imp_iff, implies_true,
      and_true, shape]
    simp [readGroupMember_eq_read, readGroupMember_fields, Draft.read, Except.map_map]
  read_other := by
    intro d name v h
    simp only [table, List.map_cons, List.map_nil, List.mem_cons, not_or] at h
    show Item.readGroupMember d name v = .ok d
    rw [readGroupMember_eq_read (by simp_all), Draft.read.eq_def]
    simp only
    split <;> simp_all
  get_set := by simp [table]
  get_set_of_ne := by simp [table]
  get_other := by simp

theorem readGroupMembers_eq (d : Draft) (members : Dict Json) :
    Item.readGroupMembers d members = shape.readMembers d members := by
  induction members generalizing d with
  | nil =>
    rw [Item.readGroupMembers]
    rfl
  | cons p rest ih =>
    obtain ⟨name, v⟩ := p
    show Item.readGroupMembers d ((name, v) :: rest)
      = Item.readGroupMember d name v >>= fun d => shape.readMembers d rest
    rw [Item.readGroupMembers]
    cases h : Item.readGroupMember d name v with
    | ok d => exact ih d
    | error e => rfl

theorem readGroupList_eq (d : Draft) (names : List String) (vs : List Json) :
    Item.readGroupList d names vs = shape.readMembers d (names.zip vs) := by
  induction names generalizing d vs with
  | nil =>
    rw [Item.readGroupList]
    · rfl
    · simp
  | cons name names ih =>
    cases vs with
    | nil =>
      rw [Item.readGroupList]
      · rfl
      · simp
    | cons v vs =>
      show Item.readGroupList d (name :: names) (v :: vs)
        = Item.readGroupMember d name v >>= fun d => shape.readMembers d (names.zip vs)
      rw [Item.readGroupList]
      cases h : Item.readGroupMember d name v with
      | ok d => exact ih d vs
      | error e => rfl

/-- What was read as a group is the finished draft of its members. -/
theorem decode_eq_ok {v : Json} {info : GroupInfo} {items : List Item}
    (h : decode v = .ok (info, items)) :
    ∃ d : Draft, shape.readMembers {} (v.membersAs fieldNames) = .ok d
      ∧ d.info = info ∧ d.items = some items := by
  obtain ⟨d, hd, hfinish⟩ := Json.RecordShape.decode_eq_ok h
  refine ⟨d, hd, ?_⟩
  cases hitems : d.items with
  | none => simp [hitems] at hfinish
  | some is =>
    simp only [hitems, Except.ok.injEq, Prod.mk.injEq] at hfinish
    exact ⟨hfinish.1, congrArg some hfinish.2⟩

end GroupInfo

/-! ## Items -/

namespace Item

/-- A document is a field if it reads as one, else a group. -/
theorem read?_eq (v : Json) :
    read? v = match Field.decode v with
      | .ok f => some (.field f)
      | .error _ => (GroupInfo.decode v).toOption.map fun g => .group g.1 g.2 := by
  cases v with
  | object members =>
    rw [read?, ← Field.decode_object]
    cases Field.decode (.object members) with
    | ok f => rfl
    | error e =>
      simp only [GroupInfo.readGroupMembers_eq, GroupInfo.decode, Json.RecordShape.decode]
      cases GroupInfo.shape.readMembers {} members with
      | error e => rfl
      | ok d =>
        obtain ⟨info, _ | items⟩ := d
        · rfl
        · rfl
  | array properties =>
    rw [read?]
    simp only [GroupInfo.readGroupList_eq, GroupInfo.decode, Json.RecordShape.decode,
      Field.decode, Json.mismatch]
    have hfields : GroupInfo.shape.fields = GroupInfo.fieldNames := rfl
    rw [hfields]
    cases GroupInfo.shape.readMembers {} (GroupInfo.fieldNames.zip properties) with
    | error e => rfl
    | ok d =>
      obtain ⟨info, _ | items⟩ := d
      · rfl
      · show (if properties.length ≤ GroupInfo.fieldNames.length then _ else _) = _
        simp only [bind, Except.bind]
        split
        · next hle => rw [if_neg (by omega)]; rfl
        · next hle => rw [if_pos (by omega)]; rfl
  | _ => 
    rw [read?]
    · rfl
    · simp
    · simp

/-- A document that reads as a field is one. -/
theorem read?_of_field {v : Json} {f : Field} (h : Field.decode v = .ok f) :
    read? v = some (.field f) := by
  rw [read?_eq, h]

/-- What an item was read from. -/
theorem read?_eq_some {v : Json} {i : Item} (h : read? v = some i) :
    (∃ f, i = .field f ∧ Field.decode v = .ok f)
      ∨ ∃ info items, i = .group info items ∧ GroupInfo.decode v = .ok (info, items) := by
  rw [read?_eq] at h
  cases hf : Field.decode v with
  | ok f =>
    rw [hf] at h
    exact Or.inl ⟨f, (Option.some.inj h).symm, rfl⟩
  | error e =>
    rw [hf] at h
    obtain ⟨⟨info, items⟩, hg, rfl⟩ := Option.map_eq_some_iff.mp h
    refine Or.inr ⟨info, items, rfl, ?_⟩
    cases hd : GroupInfo.decode v with
    | ok g =>
      rw [hd] at hg
      exact congrArg _ (Option.some.inj hg)
    | error e =>
      rw [hd] at hg
      cases hg

/-- What is a field was read as one. -/
theorem decode_of_read?_field {v : Json} {f : Field} (h : read? v = some (.field f)) :
    Field.decode v = .ok f := by
  rcases read?_eq_some h with ⟨g, heq, hg⟩ | ⟨info, items, heq, -⟩
  · exact Item.field.inj heq ▸ hg
  · cases heq

end Item

/-! ## Forms -/

namespace Form

/-- The members of a form. -/
def table : List (Json.Member Draft) := [
  ⟨_, "id", Draft.id, fun d x => { d with id := x }, Json.asOption Json.asString⟩,
  ⟨_, "title", Draft.title, fun d x => { d with title := x }, Json.asOption Json.asString⟩,
  ⟨_, "description", Draft.description, fun d x => { d with description := x },
    Json.asOption Json.asString⟩,
  ⟨_, "fields", Draft.items, fun d x => { d with items := x },
    fun v => (v.asList.bind Item.readAll).map some⟩]

theorem isTable : Json.Table shape table fun d _ _ => d where
  read_member := by simp [table, shape, Except.map_map]
  read_other := by
    intro d name v h
    simp only [table, List.map_cons, List.map_nil, List.mem_cons, not_or] at h
    simp only [shape]
    split <;> simp_all
  get_set := by simp [table]
  get_set_of_ne := by simp [table]
  get_other := by simp

/-- A form that was read is the finished draft of its members. -/
theorem decode_eq_ok {v : Json} {form : Form} (h : decode v = .ok form) :
    ∃ d : Draft, shape.readMembers {} (v.membersAs shape.fields) = .ok d
      ∧ d.items = some form.items ∧ form = ⟨d.id, d.title, d.description, form.items⟩ := by
  obtain ⟨d, hd, hfinish⟩ := Json.RecordShape.decode_eq_ok h
  refine ⟨d, hd, ?_⟩
  cases hitems : d.items with
  | none => simp [hitems] at hfinish
  | some items =>
    simp only [hitems, Except.ok.injEq] at hfinish
    subst hfinish
    exact ⟨rfl, rfl⟩

end Form
end FormLogic
