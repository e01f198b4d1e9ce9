/-
  FormLogic.Proofs.Schema.Focus

  Looking a field up in place.

  A search in place goes the way of the search that only reads, through
  groups, members and templates, and keeps the way back: what it comes to is
  a field together with what the form is when another field is put where
  this one stands.  A change to the field at a path puts the changed field
  back, and so does any update of a field.  An update that keeps the name and
  the type of the field, and what is below it, is found under the path
  afterwards; under all other paths, those above it apart, the same fields
  are found as before.

    * `Focus`, `Form.focus?` — a field in place.
    * `Form.focus?_field`, `Form.change?_eq_focus` — the search that reads
      and the change by what is found in place.
    * `Form.field?_put`, `Form.field?_put_of_ne` — what is found after an
      update.
-/

import FormLogic.Proofs.Schema.Chains

namespace FormLogic

/-! ## Searching in place -/

/-- A field in place: the field, and what is around it with another field in its place. -/
structure Focus (α : Type) where
  field : Field
  put : Field → α

/-- The same field within something larger. -/
def Focus.map {α β : Type} (within : α → β) (r : Focus α) : Focus β :=
  ⟨r.field, fun f => within (r.put f)⟩

mutual

/-- The first field of a name in an item, in place. -/
def Item.focus? (name : String) : Item → Option (Focus Item)
  | .field f => if f.info.name = name then some ⟨f, .field⟩ else none
  | .group info items => (Item.focusIn? name items).map (Focus.map (.group info))

/-- The first field of a name in a list of items, in place. -/
def Item.focusIn? (name : String) : List Item → Option (Focus (List Item))
  | [] => none
  | i :: is =>
    match Item.focus? name i with
    | some r => some (r.map (· :: is))
    | none => (Item.focusIn? name is).map (Focus.map (i :: ·))

end

/-- The first field of a name in a list of fields, in place. -/
def Field.focusIn? (name : String) : List Field → Option (Focus (List Field))
  | [] => none
  | f :: fs =>
    if f.info.name = name then some ⟨f, (· :: fs)⟩
    else (Field.focusIn? name fs).map (Focus.map (f :: ·))

/-- The field of a name directly below a field, in place. -/
def Field.focusChild? (f : Field) (name : String) : Option (Focus Field) :=
  match f.info.kind with
  | .object => (Field.focusIn? name f.fields).map (Focus.map fun fs => { f with fields := fs })
  | .array =>
    f.itemSchema.bind fun items =>
      (Item.focusIn? name items).map (Focus.map fun is => { f with itemSchema := some is })
  | _ => none

/-- The field that segments lead to from a field on, in place. -/
def Field.focusAt? : List String → Field → Option (Focus Field)
  | [], f => some ⟨f, id⟩
  | s :: rest, f =>
    (f.focusChild? s).bind fun r => (Field.focusAt? rest r.field).map (Focus.map r.put)

/-- The field at a path, in place. -/
def Form.focus? (form : Form) (path : String) : Option (Focus Form) :=
  match Text.pieces '.' path with
  | [] => none
  | s :: rest =>
    (Item.focusIn? s form.items).bind fun r =>
      (Field.focusAt? rest r.field).map (Focus.map fun f => { form with items := r.put f })

/-! ## Reading and changing in place -/

@[simp] theorem Focus.map_field {α β : Type} (within : α → β) (r : Focus α) :
    (r.map within).field = r.field := rfl

@[simp] theorem Focus.map_put {α β : Type} (within : α → β) (r : Focus α) (f : Field) :
    (r.map within).put f = within (r.put f) := rfl

@[simp] theorem Focus.field_comp_map {α β : Type} (within : α → β) :
    Focus.field ∘ Focus.map within = Focus.field := rfl

variable {name : String} {h : Field → Field} {g : FieldInfo → FieldInfo}

/-- In place the same field is found in items. -/
theorem Item.focusIn?_field (name : String) (items : List Item) :
    (Item.focusIn? name items).map Focus.field = Item.findIn? name items := by
  induction items using Item.listInduction with
  | nil => rfl
  | field f rest ih =>
    rw [Item.focusIn?, Item.focus?, Item.findIn?, Item.find?]
    by_cases hname : f.info.name = name
    · simp [hname]
    · simpa [hname] using ih
  | group info inner rest ihInner ihRest =>
    rw [Item.focusIn?, Item.focus?, Item.findIn?, Item.find?, ← ihInner, ← ihRest]
    cases Item.focusIn? name inner <;> simp

/-- Items are changed where the field is found. -/
theorem Item.changeIn_eq_put {items : List Item} {r : Focus (List Item)}
    (hr : Item.focusIn? name items = some r) : Item.changeIn name h items = r.put (h r.field) := by
  induction items using Item.listInduction generalizing r with
  | nil => cases hr
  | field f rest ih =>
    rw [Item.focusIn?, Item.focus?] at hr
    rw [Item.changeIn, Item.find?]
    by_cases hname : f.info.name = name
    · simp only [hname, if_true] at hr ⊢
      obtain rfl := Option.some.inj hr
      simp [Item.change, hname]
    · simp only [hname, if_false] at hr ⊢
      obtain ⟨r', hr', rfl⟩ := Option.map_eq_some_iff.mp hr
      rw [ih hr']
      rfl
  | group info inner rest ihInner ihRest =>
    rw [Item.focusIn?, Item.focus?] at hr
    rw [Item.changeIn, Item.find?, ← Item.focusIn?_field]
    cases hinner : Item.focusIn? name inner with
    | some r' =>
      simp only [hinner, Option.map_some] at hr ⊢
      obtain rfl := Option.some.inj hr
      rw [Item.change, ihInner hinner]
      rfl
    | none =>
      simp only [hinner, Option.map_none] at hr ⊢
      obtain ⟨r', hr', rfl⟩ := Option.map_eq_some_iff.mp hr
      rw [ihRest hr']
      rfl

theorem Field.focusIn?_field (name : String) (fs : List Field) :
    (Field.focusIn? name fs).map Focus.field = Field.named? name fs := by
  induction fs with
  | nil => rfl
  | cons f fs ih =>
    rw [Field.focusIn?, Field.named?_cons, ← ih]
    split <;> simp

theorem Field.changeIn_eq_put {fs : List Field} {r : Focus (List Field)}
    (hr : Field.focusIn? name fs = some r) :
    Field.changeIn name h fs = r.put (h r.field) := by
  induction fs generalizing r with
  | nil => cases hr
  | cons f fs ih =>
    rw [Field.focusIn?] at hr
    rw [Field.changeIn]
    split at hr
    · next hname =>
      obtain rfl := Option.some.inj hr
      exact if_pos hname
    · next hname =>
      obtain ⟨r', hr', rfl⟩ := Option.map_eq_some_iff.mp hr
      rw [if_neg hname, ih hr']
      rfl

theorem Field.focusChild?_field (f : Field) (name : String) :
    (f.focusChild? name).map Focus.field = f.child? name := by
  rw [Field.focusChild?, Field.child?]
  cases f.info.kind
  case object =>
    simp only [Option.map_map, Focus.field_comp_map, Field.focusIn?_field, Field.named?]
  case array =>
    cases f.itemSchema with
    | none => rfl
    | some items =>
      simp only [Option.bind_some, Option.map_map, Focus.field_comp_map, Item.focusIn?_field]
  all_goals rfl

/-- Below a field it is the field of the first segment that is changed further. -/
theorem Field.changeAt_cons {f : Field} {s : String} {r : Focus Field}
    (hr : f.focusChild? s = some r) (rest : List String) :
    Field.changeAt g (s :: rest) f = r.put (Field.changeAt g rest r.field) := by
  rw [Field.focusChild?] at hr
  rw [Field.changeAt]
  cases hk : f.info.kind
  case object =>
    simp only [hk] at hr
    obtain ⟨r', hr', rfl⟩ := Option.map_eq_some_iff.mp hr
    simp only [Field.changeIn_eq_put hr', Focus.map_put, Focus.map_field]
  case array =>
    simp only [hk] at hr
    obtain ⟨items, ht, hitems⟩ := Option.bind_eq_some_iff.mp hr
    obtain ⟨r', hr', rfl⟩ := Option.map_eq_some_iff.mp hitems
    simp only [ht, Option.map_some, Item.changeIn_eq_put hr', Focus.map_put, Focus.map_field]
  all_goals
    simp only [hk] at hr
    cases hr

theorem Field.focusAt?_field (segments : List String) (f : Field) :
    (Field.focusAt? segments f).map Focus.field = f.descend? segments := by
  induction segments generalizing f with
  | nil => rfl
  | cons s rest ih =>
    rw [Field.focusAt?, Field.descend?, ← Field.focusChild?_field]
    cases f.focusChild? s with
    | none => rfl
    | some r => simp [ih]

theorem Field.changeAt_eq_put {segments : List String} {f : Field} {r : Focus Field}
    (hr : Field.focusAt? segments f = some r) :
    Field.changeAt g segments f = r.put { r.field with info := g r.field.info } := by
  induction segments generalizing f r with
  | nil =>
    obtain rfl := Option.some.inj hr
    rfl
  | cons s rest ih =>
    obtain ⟨child, hchild, hrest⟩ := Option.bind_eq_some_iff.mp hr
    obtain ⟨r', hr', rfl⟩ := Option.map_eq_some_iff.mp hrest
    rw [Field.changeAt_cons hchild, ih hr']
    rfl

namespace Form

variable {form : Form} {q : String} {r : Focus Form}

/-- In place the field is found that is found by reading. -/
theorem focus?_field (form : Form) (q : String) :
    (form.focus? q).map Focus.field = form.field? q := by
  rw [focus?, field?]
  cases Text.pieces '.' q with
  | nil => rfl
  | cons s rest =>
    simp only [← Item.focusIn?_field]
    cases Item.focusIn? s form.items with
    | none => rfl
    | some r => simp [← Field.focusAt?_field]

theorem field?_of_focus? (hr : form.focus? q = some r) : form.field? q = some r.field := by
  rw [← focus?_field, hr, Option.map_some]

/-- A change puts the changed field in its place. -/
theorem change?_eq_focus (form : Form) (q : String) (g : FieldInfo → FieldInfo) :
    form.change? q g
      = (form.focus? q).map fun r => r.put { r.field with info := g r.field.info } := by
  cases hr : form.focus? q with
  | none => rw [Option.map_none, change?_eq_none_iff, ← focus?_field, hr, Option.map_none]
  | some r =>
    rw [change?, field?_of_focus? hr, Option.map_some]
    rw [focus?] at hr
    cases hpieces : Text.pieces '.' q with
    | nil => simp only [hpieces] at hr; cases hr
    | cons s rest =>
      simp only [hpieces] at hr
      obtain ⟨first, hfirst, hrest⟩ := Option.bind_eq_some_iff.mp hr
      obtain ⟨r', hr', rfl⟩ := Option.map_eq_some_iff.mp hrest
      simp only [Item.changeIn_eq_put hfirst, Field.changeAt_eq_put hr']
      rfl

end Form

/-! ## Scopes of a changed form -/

section

variable {form : Form} {path names P : List String} {fields inner : List Field} {f : Field}

theorem Field.named?_map {k : Field → Field} (hk : ∀ f, (k f).info.name = f.info.name)
    (s : String) (fs : List Field) : Field.named? s (fs.map k) = (Field.named? s fs).map k := by
  rw [Field.named?, Field.named?, List.find?_map]
  simp only [Function.comp_def, hk]

/-- A list without a template gets none. -/
theorem Field.changed_itemSchema_of_none (hk : f.info.kind = .array) (ht : f.itemSchema = none) :
    (f.changed g names).itemSchema = none := by
  cases names with
  | nil => exact ht
  | cons s rest =>
    rw [Field.changed]
    split
    · cases rest with
      | nil => exact ht
      | cons t rest =>
        rw [Field.changeAt, hk]
        simp [ht]
    · exact ht

/-- In the scope that a changed field opens, the names that are left change the fields. -/
theorem Field.innerFields_changed (hkind : ∀ info, (g info).kind = info.kind)
    (hn : form.NamesInOrder) (hscope : form.HasScope path fields) (hf : f ∈ fields) :
    (f.changed g names).innerFields
      = f.innerFields.map (Field.changed g (f.namesBelow names)) := by
  have hk : (f.changed g names).info.kind = f.info.kind := Field.changed_kind hkind
  cases hinner : f.inner? with
  | none =>
    have hnone : (f.changed g names).inner? = none := by
      rw [Field.inner?] at hinner
      rw [Field.inner?, hk]
      split
      · next harray =>
        simp only [harray, Option.map_eq_none_iff] at hinner
        rw [Field.changed_itemSchema_of_none harray hinner, Option.map_none]
      · next hobject => simp [hobject] at hinner
      · rfl
    rw [Field.innerFields_of_none hnone, Field.innerFields_of_none hinner, List.map_nil]
  | some scope =>
    have hnodup := (hn _ _ (hscope.inner hf hinner)).2
    rw [Field.innerFields_of_inner? hinner]
    rcases Field.inner?_cases hinner with ⟨items, harray, ht, -, hitems⟩ | ⟨hobject, -, hfields⟩
    · rw [hitems] at hnodup
      obtain ⟨changed, ht', hflat⟩ := Field.changed_itemSchema harray ht hnodup
      rw [Field.innerFields_of_inner? (Field.inner?_of_array (hk.trans harray) ht'), hflat, hitems]
    · rw [hfields] at hnodup
      rw [Field.innerFields_of_inner? (Field.inner?_of_object (hk.trans hobject)),
        Field.changed_fields hobject hnodup, hfields]

/-- Where the names of a change do not begin with segments that lead through a field, the names that
are left do not begin with the segments that are left, or it is the field itself that is not
changed. -/
theorem Field.changed_elsewhere {rest : List String} (hp : ¬ f.info.name :: rest <+: names) :
    ¬ rest <+: f.namesBelow names ∨ rest = [] ∧ f.changed g names = f := by
  -- no names are left where the first one is another
  have hnone : ¬ rest <+: [] ∨ rest = [] := by
    by_cases hrest : rest = []
    · exact Or.inr hrest
    · exact Or.inl fun h => hrest (List.prefix_nil.mp h)
  cases names with
  | nil => exact hnone.imp_right fun hrest => ⟨hrest, rfl⟩
  | cons t names =>
    rw [List.cons_prefix_cons] at hp
    rw [Field.namesBelow, Field.changed]
    by_cases ht : f.info.name = t
    · rw [if_pos ht]
      exact Or.inl fun h => hp ⟨ht, h⟩
    · rw [if_neg ht, if_neg ht]
      exact hnone.imp_right fun hrest => ⟨hrest, rfl⟩

/-- Segments that the names of a change do not begin with lead to the field that they led to. -/
theorem Field.seek?_changed_elsewhere (hname : ∀ info, (g info).name = info.name)
    (hkind : ∀ info, (g info).kind = info.kind) (hn : form.NamesInOrder)
    (hscope : form.HasScope path fields) (hp : ¬ P <+: names) :
    Field.seek? (fields.map (Field.changed g names)) P = Field.seek? fields P := by
  induction P generalizing path fields names with
  | nil => rfl
  | cons s rest ih =>
    rw [Field.seek?, Field.seek?, Field.named?_map fun _ => Field.changed_name hname]
    cases hnamed : Field.named? s fields with
    | none => rfl
    | some f =>
      obtain ⟨hf, rfl⟩ := Field.mem_of_named? hnamed
      rw [Option.map_some, Option.bind_some, Option.bind_some]
      rcases Field.changed_elsewhere hp with hbelow | ⟨rfl, hsame⟩
      · have hrest : rest ≠ [] := by
          rintro rfl
          exact hbelow List.nil_prefix
        rw [Field.descend?_eq_seek? _ hrest, Field.descend?_eq_seek? _ hrest,
          Field.innerFields_changed hkind hn hscope hf]
        cases hinner : f.inner? with
        | none => rw [Field.innerFields_of_none hinner, List.map_nil]
        | some scope =>
          rw [Field.innerFields_of_inner? hinner]
          exact ih (hscope.inner hf hinner) hbelow
      · rw [hsame]

/-- The names of a change lead to the changed field. -/
theorem Field.seek?_changed_self (hname : ∀ info, (g info).name = info.name)
    (hkind : ∀ info, (g info).kind = info.kind) (hn : form.NamesInOrder)
    (hscope : form.HasScope path fields) (hfind : Field.seek? fields names = some f) :
    Field.seek? (fields.map (Field.changed g names)) names
      = some { f with info := g f.info } := by
  induction names generalizing path fields with
  | nil => cases hfind
  | cons s rest ih =>
    obtain ⟨c, hnamed, hdescend⟩ := Option.bind_eq_some_iff.mp hfind
    obtain ⟨hc, rfl⟩ := Field.mem_of_named? hnamed
    rw [Field.seek?, Field.named?_map fun _ => Field.changed_name hname, hnamed, Option.map_some,
      Option.bind_some]
    by_cases hrest : rest = []
    · subst hrest
      obtain rfl := Option.some.inj hdescend
      rw [Field.changed, if_pos rfl]
      rfl
    · rw [Field.descend?_eq_seek? c hrest] at hdescend
      rw [Field.descend?_eq_seek? _ hrest, Field.innerFields_changed hkind hn hscope hc,
        Field.namesBelow, if_pos rfl]
      cases hinner : c.inner? with
      | none =>
        rw [Field.innerFields_of_none hinner, Field.seek?_nil] at hdescend
        cases hdescend
      | some scope =>
        rw [Field.innerFields_of_inner? hinner] at hdescend ⊢
        exact ih (hscope.inner hc hinner) hdescend

end

/-! ## Changed forms -/

/-- A field of the same name and type, with the same template and members. -/
structure Field.SameShape (f f' : Field) : Prop where
  name : f'.info.name = f.info.name
  kind : f'.info.kind = f.info.kind
  itemSchema : f'.itemSchema = f.itemSchema
  fields : f'.fields = f.fields

/-- Two fields of one shape differ in the rest of what they say of themselves. -/
theorem Field.SameShape.eq {f f' : Field} (hs : f.SameShape f') :
    { f with info := f'.info } = f' := by
  rw [← hs.itemSchema, ← hs.fields]
  cases f'
  rfl

namespace Form

variable {form form' : Form} {q p : String} {f f' : Field} {r : Focus Form}

/-- The fields at the top of a changed form. -/
theorem flatAll_of_change? (hn : form.NamesInOrder) (h : form.change? q g = some form') :
    Item.flatAll form'.items
      = (Item.flatAll form.items).map (Field.changed g (Path.segments q)) := by
  rw [change?] at h
  split at h
  · next s rest _ hpieces =>
    obtain rfl := Option.some.inj h
    rw [Path.segments, hpieces, Item.flatAll_changeIn]
    exact Field.changeIn_eq_changed (hn _ _ .top).2 s rest
  · cases h

/-- A path whose segments begin those of a path of a field is this path or stands above it. -/
theorem eq_or_above_of_segments (hn : form.NamesInOrder) (hq : form.field? q = some f)
    (hp : Path.segments p <+: Path.segments q) : p = q ∨ Path.Above p q := by
  obtain ⟨names, starred, hchain, rfl⟩ := (field?_iff_chain hn).mp hq
  rw [hchain.segments_names hn] at hp
  obtain ⟨rest, hrest⟩ := hp
  have hsegments := (hchain.isSegment hn).1
  have hfront : ∀ s ∈ Path.segments p, Path.isSegment s = true :=
    fun s hs => hsegments s (hrest ▸ List.mem_append_left _ hs)
  rw [← Path.ofSegments_segments hfront]
  by_cases hnil : rest = []
  · subst hnil
    rw [List.append_nil] at hrest
    exact Or.inl (congrArg Path.ofSegments hrest)
  · exact Or.inr ((Path.above_ofSegments_iff (Path.segments_ne_nil p) hfront hsegments).mpr
      ⟨rest, hnil, hrest.symm⟩)

/-- A change that keeps names and types is found where it was made. -/
theorem field?_change? (hname : ∀ info, (g info).name = info.name)
    (hkind : ∀ info, (g info).kind = info.kind) (hn : form.NamesInOrder)
    (h : form.change? q g = some form') (hq : form.field? q = some f) :
    form'.field? q = some { f with info := g f.info } := by
  rw [field?_eq_seek?] at hq ⊢
  rw [flatAll_of_change? hn h]
  exact Field.seek?_changed_self hname hkind hn .top hq

/-- Under other paths, unless they stand above, it is not seen. -/
theorem field?_change?_of_ne (hname : ∀ info, (g info).name = info.name)
    (hkind : ∀ info, (g info).kind = info.kind) (hn : form.NamesInOrder)
    (h : form.change? q g = some form') (hq : form.field? q = some f) (hne : p ≠ q)
    (habove : ¬ Path.Above p q) : form'.field? p = form.field? p := by
  have hp : ¬ Path.segments p <+: Path.segments q :=
    fun hp => (eq_or_above_of_segments hn hq hp).elim hne habove
  rw [field?_eq_seek?, field?_eq_seek?, flatAll_of_change? hn h]
  exact Field.seek?_changed_elsewhere hname hkind hn .top hp

/-! ## Updates in place -/

/-- An update that keeps the shape of the field at a path is a change that keeps the name and type
of any field. -/
theorem exists_change?_eq_put (hr : form.focus? q = some r) (hs : r.field.SameShape f') :
    ∃ g : FieldInfo → FieldInfo, (∀ info, (g info).name = info.name)
      ∧ (∀ info, (g info).kind = info.kind) ∧ form.change? q g = some (r.put f')
      ∧ { r.field with info := g r.field.info } = f' := by
  -- a field of another name or type is left as it is
  let g : FieldInfo → FieldInfo := fun info =>
    if info.name = r.field.info.name ∧ info.kind = r.field.info.kind then f'.info else info
  have hg : { r.field with info := g r.field.info } = f' := by
    have hinfo : g r.field.info = f'.info := if_pos ⟨rfl, rfl⟩
    rw [hinfo, hs.eq]
  refine ⟨g, fun info => ?_, fun info => ?_, ?_, hg⟩
  · by_cases hsame : info.name = r.field.info.name ∧ info.kind = r.field.info.kind
    · exact (congrArg FieldInfo.name (if_pos hsame)).trans (hs.name.trans hsame.1.symm)
    · exact congrArg FieldInfo.name (if_neg hsame)
  · by_cases hsame : info.name = r.field.info.name ∧ info.kind = r.field.info.kind
    · exact (congrArg FieldInfo.kind (if_pos hsame)).trans (hs.kind.trans hsame.2.symm)
    · exact congrArg FieldInfo.kind (if_neg hsame)
  · rw [change?_eq_focus, hr, Option.map_some, hg]

/-- An updated field is found where it was put. -/
theorem field?_put (hn : form.NamesInOrder) (hr : form.focus? q = some r)
    (hs : r.field.SameShape f') : (r.put f').field? q = some f' := by
  obtain ⟨g, hname, hkind, hchange, hg⟩ := exists_change?_eq_put hr hs
  rw [field?_change? hname hkind hn hchange (field?_of_focus? hr), hg]

/-- Under other paths, unless they stand above, an update is not seen. -/
theorem field?_put_of_ne (hn : form.NamesInOrder) (hr : form.focus? q = some r)
    (hs : r.field.SameShape f') (hne : p ≠ q) (habove : ¬ Path.Above p q) :
    (r.put f').field? p = form.field? p := by
  obtain ⟨g, hname, hkind, hchange, -⟩ := exists_change?_eq_put hr hs
  exact field?_change?_of_ne hname hkind hn hchange (field?_of_focus? hr) hne habove

end Form
end FormLogic
