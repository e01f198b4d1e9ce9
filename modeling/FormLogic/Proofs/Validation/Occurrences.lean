/-
  FormLogic.Proofs.Validation.Occurrences

  The fields of a form in document order, each where it stands.

  Groups leave their fields in the scope around them.  A field with a
  template opens a scope for the fields of the template, a field with members
  one for these.  Every field of every scope that is reached so occurs once
  in the list of occurrences, in front of the fields below it and behind the
  fields of its scope that were declared before it.

    * `Form.HasScope` — the scopes that are reached.
    * `Form.occurrences` — the fields, in document order.
    * `Form.mem_occurrences_iff` — the two tell of the same fields.
-/

import FormLogic.Proofs.Schema.Descent

namespace FormLogic

/-! ## Scopes -/

mutual

/-- The field that an item is, or those of the group, in document order. -/
def Item.flat : Item → List Field
  | .field f => [f]
  | .group _ items => Item.flatAll items

/-- The fields of a list of items, groups left out, in document order. -/
def Item.flatAll : List Item → List Field
  | [] => []
  | i :: is => Item.flat i ++ Item.flatAll is

end

@[simp] theorem Item.flatAll_nil : Item.flatAll [] = [] := rfl

@[simp] theorem Item.flatAll_field_cons (f : Field) (rest : List Item) :
    Item.flatAll (.field f :: rest) = f :: Item.flatAll rest := rfl

@[simp] theorem Item.flatAll_group_cons (info : GroupInfo) (inner rest : List Item) :
    Item.flatAll (.group info inner :: rest) = Item.flatAll inner ++ Item.flatAll rest := rfl

theorem Item.flatAll_map_field (fs : List Field) : Item.flatAll (fs.map Item.field) = fs := by
  induction fs with
  | nil => rfl
  | cons f fs ih => rw [List.map_cons, Item.flatAll_field_cons, ih]

theorem Item.declares_iff_mem_flatAll {items : List Item} {f : Field} :
    Item.Declares items f ↔ f ∈ Item.flatAll items := by
  induction items using Item.listInduction with
  | nil => simp
  | field g rest ih => simp [ih]
  | group info inner rest ihInner ihRest => simp [ihInner, ihRest]

theorem Item.declares_eq_mem (items : List Item) :
    Item.Declares items = (· ∈ Item.flatAll items) :=
  funext fun _ => propext Item.declares_iff_mem_flatAll

/-- The scope that a field opens, if it does: the segments that lead there from the scope of the
field, and the fields in it.  A star stands for the positions of entries. -/
def Field.inner? (f : Field) : Option (List String × List Field) :=
  match f.info.kind with
  | .array => f.itemSchema.map fun items => ([f.info.name, "*"], Item.flatAll items)
  | .object => some ([f.info.name], f.fields)
  | _ => none

/-- The scopes of a form, each with the segments that lead to it: the fields at the top, and what
the fields of a scope open. -/
inductive Form.HasScope (form : Form) : List String → List Field → Prop
  | top : HasScope form [] (Item.flatAll form.items)
  | inner {around segs : List String} {fields below : List Field} {f : Field} :
      HasScope form around fields → f ∈ fields → f.inner? = some (segs, below) →
      HasScope form (around ++ segs) below

theorem Field.inner?_of_array {f : Field} {items : List Item} (hk : f.info.kind = .array)
    (ht : f.itemSchema = some items) :
    f.inner? = some ([f.info.name, "*"], Item.flatAll items) := by
  rw [Field.inner?, hk, ht]
  rfl

theorem Field.inner?_of_object {f : Field} (hk : f.info.kind = .object) :
    f.inner? = some ([f.info.name], f.fields) := by
  rw [Field.inner?, hk]

/-- A scope is opened by a template or by members. -/
theorem Field.inner?_cases {f : Field} {segs : List String} {below : List Field}
    (h : f.inner? = some (segs, below)) :
    (∃ items, f.info.kind = .array ∧ f.itemSchema = some items
      ∧ segs = [f.info.name, "*"] ∧ below = Item.flatAll items)
    ∨ (f.info.kind = .object ∧ segs = [f.info.name] ∧ below = f.fields) := by
  rw [Field.inner?] at h
  split at h
  · next hk =>
    obtain ⟨items, ht, heq⟩ := Option.map_eq_some_iff.mp h
    obtain ⟨rfl, rfl⟩ := Prod.mk.inj heq
    exact Or.inl ⟨items, hk, ht, rfl, rfl⟩
  · next hk =>
    obtain ⟨rfl, rfl⟩ := Prod.mk.inj (Option.some.inj h)
    exact Or.inr ⟨hk, rfl, rfl⟩
  · cases h

theorem Item.sizeOf_lt_of_mem_flatAll {items : List Item} {f : Field} (h : f ∈ Item.flatAll items) :
    sizeOf f < sizeOf items := by
  induction items using Item.listInduction with
  | nil => exact absurd h List.not_mem_nil
  | field g rest ih =>
    simp only [List.cons.sizeOf_spec, Item.field.sizeOf_spec]
    rw [Item.flatAll_field_cons] at h
    rcases List.mem_cons.mp h with rfl | h
    · omega
    · have hrest := ih h
      omega
  | group info inner rest ihInner ihRest =>
    simp only [List.cons.sizeOf_spec, Item.group.sizeOf_spec]
    rw [Item.flatAll_group_cons] at h
    rcases List.mem_append.mp h with h | h
    · have hinner := ihInner h
      omega
    · have hrest := ihRest h
      omega

theorem Field.sizeOf_lt_of_inner? {f g : Field} {segs : List String} {below : List Field}
    (h : f.inner? = some (segs, below)) (hg : g ∈ below) : sizeOf g < sizeOf f := by
  rcases Field.inner?_cases h with ⟨items, -, ht, -, rfl⟩ | ⟨-, -, rfl⟩
  · have hlt := Item.sizeOf_lt_of_mem_flatAll hg
    obtain ⟨info, template, fields⟩ := f
    cases ht
    simp only [Field.mk.sizeOf_spec, Option.some.sizeOf_spec]
    omega
  · have hlt := List.sizeOf_lt_of_mem hg
    obtain ⟨info, template, fields⟩ := f
    simp only [Field.mk.sizeOf_spec] at hlt ⊢
    omega

/-- What holds of a field as soon as it does of the fields in the scope that it opens holds of
every field. -/
theorem Field.innerInduction {P : Field → Prop}
    (step : ∀ f, (∀ segs below, f.inner? = some (segs, below) → ∀ g ∈ below, P g) → P f)
    (f : Field) : P f :=
  step f fun _ _ _ g _ => Field.innerInduction step g
termination_by sizeOf f
decreasing_by exact Field.sizeOf_lt_of_inner? ‹_› ‹_›

/-! ## Occurrences -/

/-- A field where it stands: the segments that lead to its scope, and the fields that stand before
it there. -/
structure Occurrence where
  around : List String
  before : List Field
  field : Field

mutual

/-- A field and the fields below it. -/
def Field.occurrences (around : List String) (before : List Field) : Field → List Occurrence
  | ⟨info, template, fields⟩ =>
    ⟨around, before, ⟨info, template, fields⟩⟩ ::
      match info.kind with
      | .array =>
        match template with
        | some items => Item.occurrencesAll (around ++ [info.name, "*"]) [] items
        | none => []
      | .object => Field.occurrencesAll (around ++ [info.name]) [] fields
      | _ => []

/-- The fields of a list, each with those below it. -/
def Field.occurrencesAll (around : List String) (before : List Field) :
    List Field → List Occurrence
  | [] => []
  | f :: fs => Field.occurrences around before f ++ Field.occurrencesAll around (before ++ [f]) fs
termination_by structural fs => fs

/-- The fields of an item, each with those below it. -/
def Item.occurrences (around : List String) (before : List Field) : Item → List Occurrence
  | .field f => Field.occurrences around before f
  | .group _ items => Item.occurrencesAll around before items

/-- The fields of a list of items, each with those below it. -/
def Item.occurrencesAll (around : List String) (before : List Field) : List Item → List Occurrence
  | [] => []
  | i :: is =>
    Item.occurrences around before i ++ Item.occurrencesAll around (before ++ Item.flat i) is

end

/-- The fields of a form, in document order. -/
def Form.occurrences (form : Form) : List Occurrence := Item.occurrencesAll [] [] form.items

variable {around : List String} {before : List Field}

theorem Field.occurrencesAll_append (fs gs : List Field) :
    Field.occurrencesAll around before (fs ++ gs)
      = Field.occurrencesAll around before fs
        ++ Field.occurrencesAll around (before ++ fs) gs := by
  induction fs generalizing before with
  | nil => simp [Field.occurrencesAll]
  | cons f fs ih =>
    rw [List.cons_append, Field.occurrencesAll, Field.occurrencesAll, ih, List.append_assoc,
      List.append_assoc]
    rfl

/-- Items are gone through as the fields that are left without the groups. -/
theorem Item.occurrencesAll_eq (items : List Item) :
    Item.occurrencesAll around before items
      = Field.occurrencesAll around before (Item.flatAll items) := by
  induction items using Item.listInduction generalizing before with
  | nil => rfl
  | field f rest ih =>
    rw [Item.occurrencesAll, ih, Item.occurrences, Item.flat, Item.flatAll_field_cons,
      Field.occurrencesAll]
  | group info inner rest ihInner ihRest =>
    rw [Item.occurrencesAll, ihRest, Item.occurrences, ihInner, Item.flat,
      Item.flatAll_group_cons, Field.occurrencesAll_append]

/-- The fields below a field: those of the scope that it opens. -/
def Field.occurrencesBelow (around : List String) (f : Field) : List Occurrence :=
  match f.inner? with
  | some (segs, below) => Field.occurrencesAll (around ++ segs) [] below
  | none => []

/-- A field is followed by the fields below it. -/
theorem Field.occurrences_eq (f : Field) :
    f.occurrences around before = ⟨around, before, f⟩ :: f.occurrencesBelow around := by
  obtain ⟨info, template, fields⟩ := f
  rw [Field.occurrences.eq_def, Field.occurrencesBelow, Field.inner?]
  cases hk : info.kind
  case array =>
    cases template with
    | none => simp only [hk, Option.map_none]
    | some items => simp only [hk, Option.map_some, Item.occurrencesAll_eq]
  all_goals simp only [hk]

/-! ## Occurrences and scopes -/

/-- What occurs among fields is one of them or stands below one. -/
theorem Field.mem_occurrencesAll_iff {fields : List Field} {o : Occurrence} :
    o ∈ Field.occurrencesAll around before fields ↔
      ∃ front f back, fields = front ++ f :: back
        ∧ o ∈ f.occurrences around (before ++ front) := by
  induction fields generalizing before with
  | nil => simp [Field.occurrencesAll]
  | cons g gs ih =>
    rw [Field.occurrencesAll, List.mem_append, ih]
    constructor
    · rintro (hg | ⟨front, f, back, rfl, hf⟩)
      · exact ⟨[], g, gs, rfl, by rwa [List.append_nil]⟩
      · exact ⟨g :: front, f, back, rfl, by rwa [List.append_assoc] at hf⟩
    · rintro ⟨front, f, back, heq, hf⟩
      cases front with
      | nil =>
        obtain ⟨rfl, rfl⟩ := List.cons.inj heq
        exact Or.inl (by rwa [List.append_nil] at hf)
      | cons g' front =>
        obtain ⟨rfl, rfl⟩ := List.cons.inj heq
        exact Or.inr ⟨front, f, back, rfl, by rwa [List.append_assoc]⟩

/-- What occurs at a field of a scope stands in a scope of the form. -/
theorem Form.hasScope_of_mem {form : Form} {o : Occurrence} {f : Field} {fields back : List Field}
    (hscope : form.HasScope around fields) (hfields : fields = before ++ f :: back)
    (h : o ∈ f.occurrences around before) :
    ∃ back, form.HasScope o.around (o.before ++ o.field :: back) := by
  induction f using Field.innerInduction generalizing around before fields back with
  | step f ih =>
    rw [Field.occurrences_eq] at h
    rcases List.mem_cons.mp h with rfl | h
    · exact ⟨back, hfields ▸ hscope⟩
    · rw [Field.occurrencesBelow] at h
      split at h
      · next segs below hinner =>
        have hf : f ∈ fields := by simp [hfields]
        -- the field opens a scope of the form, in which the occurrence is looked for
        have hbelow : form.HasScope (around ++ segs) below := .inner hscope hf hinner
        obtain ⟨front, g, rest, hsplit, hg⟩ := Field.mem_occurrencesAll_iff.mp h
        have hmem : g ∈ below := by simp [hsplit]
        exact ih segs below hinner g hmem hbelow hsplit hg
      · cases h

/-- The fields of a scope of the form occur, with those below them. -/
theorem Form.mem_occurrences_of_hasScope {form : Form} {fields : List Field}
    (hscope : form.HasScope around fields) {f : Field} {back : List Field}
    (hfields : fields = before ++ f :: back) {o : Occurrence}
    (h : o ∈ f.occurrences around before) : o ∈ form.occurrences := by
  induction hscope generalizing before f back with
  | top =>
    rw [Form.occurrences, Item.occurrencesAll_eq]
    exact Field.mem_occurrencesAll_iff.mpr ⟨before, f, back, hfields, h⟩
  | @inner around segs fields below g _ hg hinner ih =>
    -- the scope is the one that a field of the scope around it opens
    obtain ⟨front, rest, hsplit⟩ := List.append_of_mem hg
    refine ih hsplit ?_
    rw [Field.occurrences_eq, Field.occurrencesBelow, hinner]
    exact List.mem_cons_of_mem _ (Field.mem_occurrencesAll_iff.mpr ⟨before, f, back, hfields, h⟩)

/-- What occurs in a form are the fields of its scopes, behind the fields before them. -/
theorem Form.mem_occurrences_iff {form : Form} {o : Occurrence} :
    o ∈ form.occurrences ↔ ∃ back, form.HasScope o.around (o.before ++ o.field :: back) := by
  constructor
  · intro h
    rw [Form.occurrences, Item.occurrencesAll_eq] at h
    obtain ⟨front, f, back, hsplit, hf⟩ := Field.mem_occurrencesAll_iff.mp h
    exact Form.hasScope_of_mem .top hsplit hf
  · rintro ⟨back, hscope⟩
    have hself : o ∈ o.field.occurrences o.around o.before := by
      rw [Field.occurrences_eq]
      exact List.mem_cons_self
    exact Form.mem_occurrences_of_hasScope hscope rfl hself

/-- Names of a list are distinct where none stands before its field. -/
theorem nodup_names_iff {fields : List Field} :
    (fields.map (·.info.name)).Nodup ↔
      ∀ before f after, fields = before ++ f :: after →
        f.info.name ∉ before.map (·.info.name) := by
  constructor
  · rintro h before f after rfl hmem
    rw [List.map_append, List.map_cons, List.nodup_append] at h
    exact h.2.2 _ hmem _ List.mem_cons_self rfl
  · intro h
    induction fields with
    | nil => exact List.nodup_nil
    | cons g gs ih =>
      rw [List.map_cons, List.nodup_cons]
      constructor
      · intro hmem
        -- the later field of the same name has the first one before it
        obtain ⟨f, hf, hname⟩ := List.mem_map.mp hmem
        obtain ⟨front, back, rfl⟩ := List.append_of_mem hf
        refine h (g :: front) f back rfl ?_
        rw [hname]
        exact List.mem_cons_self
      · refine ih fun before f after hsplit hmem => ?_
        exact h (g :: before) f after (by rw [hsplit]; rfl) (List.mem_cons_of_mem _ hmem)

end FormLogic
