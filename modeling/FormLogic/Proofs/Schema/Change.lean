/-
  FormLogic.Proofs.Schema.Change

  A change to the field at a path, seen from the scopes of the form.

  Finding and changing go through groups to the first field of a name.  In
  terms of the fields of a scope, groups left out, that is a search and a
  change in one list, and where no name is repeated the change is that of the
  one field of the name.  Below it the change goes on with the names that are
  left (`Field.changed`).

    * `Item.findIn?_eq`, `Item.flatAll_changeIn` — groups do not matter.
    * `Expands` — the names of a path, and segments with a position behind
      the name of every list on the way.
    * `Descends.of_changed` — what is descended to in a changed scope, by the
      same segments in the scope itself.
    * `Form.strip_change?` — what a change leaves as it is.
-/

import FormLogic.Schema.Lookup
import FormLogic.Proofs.Schema.Strip
import FormLogic.Proofs.Validation.Occurrences

namespace FormLogic

/-! ## Groups -/

/-- The first field of a name in a list of fields. -/
def Field.named? (name : String) (fs : List Field) : Option Field :=
  fs.find? fun f => f.info.name = name

theorem Field.named?_cons (name : String) (f : Field) (fs : List Field) :
    Field.named? name (f :: fs) = if f.info.name = name then some f else Field.named? name fs := by
  rw [Field.named?, List.find?_cons]
  by_cases hname : f.info.name = name
  · simp [hname]
  · simp [hname, Field.named?]

theorem Field.mem_of_named? {name : String} {fs : List Field} {f : Field}
    (h : Field.named? name fs = some f) : f ∈ fs ∧ f.info.name = name :=
  ⟨List.mem_of_find?_eq_some h, by simpa using List.find?_some h⟩

/-- Where no name is repeated, a field is the one that is found under its name. -/
theorem Field.named?_of_mem {fs : List Field} (hnodup : (fs.map (·.info.name)).Nodup) {f : Field}
    (hf : f ∈ fs) : Field.named? f.info.name fs = some f := by
  induction fs with
  | nil => exact absurd hf List.not_mem_nil
  | cons g gs ih =>
    rw [List.map_cons, List.nodup_cons] at hnodup
    rw [Field.named?_cons]
    rcases List.mem_cons.mp hf with rfl | hf
    · exact if_pos rfl
    · rw [if_neg, ih hnodup.2 hf]
      intro hname
      exact hnodup.1 (hname ▸ List.mem_map_of_mem hf)

/-- A field is looked for among the fields that are left without the groups. -/
theorem Item.findIn?_eq (name : String) (items : List Item) :
    Item.findIn? name items = Field.named? name (Item.flatAll items) := by
  induction items using Item.listInduction with
  | nil => rfl
  | field f rest ih =>
    rw [Item.findIn?, Item.find?, Item.flatAll_field_cons, Field.named?_cons, ih]
    by_cases hname : f.info.name = name <;> simp [hname]
  | group info inner rest ihInner ihRest =>
    rw [Item.findIn?, Item.find?, ihInner, ihRest, Item.flatAll_group_cons, Field.named?,
      Field.named?, Field.named?, List.find?_append]
    cases (Item.flatAll inner).find? fun f => f.info.name = name <;> rfl

/-- A change goes to the first of two lists that has the name. -/
theorem Field.changeIn_append (name : String) (h : Field → Field) (xs ys : List Field) :
    Field.changeIn name h (xs ++ ys)
      = if (Field.named? name xs).isSome then Field.changeIn name h xs ++ ys
        else xs ++ Field.changeIn name h ys := by
  induction xs with
  | nil => rfl
  | cons f fs ih =>
    rw [List.cons_append, Field.changeIn, Field.changeIn, ih, Field.named?_cons]
    by_cases hname : f.info.name = name
    · simp [hname]
    · rw [if_neg hname, if_neg hname, if_neg hname]
      split <;> rfl

/-- A field is changed among the fields that are left without the groups. -/
theorem Item.flatAll_changeIn (name : String) (h : Field → Field) (items : List Item) :
    Item.flatAll (Item.changeIn name h items)
      = Field.changeIn name h (Item.flatAll items) := by
  induction items using Item.listInduction with
  | nil => rfl
  | field f rest ih =>
    rw [Item.changeIn, Item.find?, Item.flatAll_field_cons, Field.changeIn]
    by_cases hname : f.info.name = name
    · simp [hname, Item.change]
    · simp [hname, ih]
  | group info inner rest ihInner ihRest =>
    rw [Item.changeIn, Item.find?, Item.findIn?_eq, Item.flatAll_group_cons,
      Field.changeIn_append]
    cases Field.named? name (Item.flatAll inner) with
    | none => simp [ihRest]
    | some f => simp [Item.change, ihInner]

/-- Where no name is repeated, the change is that of the field of the name. -/
theorem Field.changeIn_eq_map {name : String} {h : Field → Field} {fs : List Field}
    (hnodup : (fs.map (·.info.name)).Nodup) :
    Field.changeIn name h fs = fs.map fun f => if f.info.name = name then h f else f := by
  induction fs with
  | nil => rfl
  | cons f fs ih =>
    rw [List.map_cons, List.nodup_cons] at hnodup
    rw [Field.changeIn, List.map_cons]
    by_cases hname : f.info.name = name
    · -- the fields behind have other names
      have hrest : (fs.map fun g => if g.info.name = name then h g else g) = fs := by
        have hid : ∀ g ∈ fs, (if g.info.name = name then h g else g) = g := by
          intro g hg
          refine if_neg fun hg' => hnodup.1 ?_
          rw [hname, ← hg']
          exact List.mem_map_of_mem hg
        rw [List.map_congr_left hid, List.map_id']
      rw [if_pos hname, if_pos hname, hrest]
    · rw [if_neg hname, if_neg hname, ih hnodup.2]

/-! ## Names with positions -/

/-- `Expands fields names segments f`: from a scope of `fields` the names lead to `f`, as those of a
path do, and the segments are the names with a position behind that of every list on the way. -/
inductive Expands : (Field → Prop) → List String → List String → Field → Prop
  | here {fields : Field → Prop} {f : Field} :
      fields f → Expands fields [f.info.name] [f.info.name] f
  | member {fields : Field → Prop} {f g : Field} {names segments : List String} :
      fields f → f.info.kind = .object → Expands (· ∈ f.fields) names segments g →
      Expands fields (f.info.name :: names) (f.info.name :: segments) g
  | item {fields : Field → Prop} {f g : Field} {items : List Item} {i : Nat}
      {names segments : List String} :
      fields f → f.info.kind = .array → f.itemSchema = some items →
      Expands (Item.Declares items) names segments g →
      Expands fields (f.info.name :: names) (f.info.name :: toString i :: segments) g

/-- A path under which the field at `q` is reported: `q` itself, with a position behind the name of
every list on the way. -/
def Form.PathOf (form : Form) (q p : String) : Prop :=
  ∃ names segments f, Expands (Item.Declares form.items) names segments f
    ∧ q = Path.ofSegments names ∧ p = Path.ofSegments segments

/-- The names that are left below a field: those behind its own, if they begin with that. -/
def Field.namesBelow (f : Field) : List String → List String
  | [] => []
  | s :: rest => if f.info.name = s then rest else []

namespace Expands

variable {fields : Field → Prop} {names segments : List String} {f g : Field}

theorem ne_nil (h : Expands fields names segments f) : names ≠ [] ∧ segments ≠ [] := by
  cases h <;> simp

/-- Names and segments are proper ones where the names of the form are. -/
theorem isSegment (h : Expands fields names segments g) (hn : PlainNames fields) :
    (∀ s ∈ names, Path.isSegment s = true) ∧ ∀ s ∈ segments, Path.isSegment s = true := by
  induction h with
  | here hf =>
    exact ⟨List.forall_mem_singleton.mpr (hn.isSegment hf),
      List.forall_mem_singleton.mpr (hn.isSegment hf)⟩
  | member hf _ _ ih =>
    obtain ⟨hnames, hsegments⟩ := ih (hn.members hf)
    exact ⟨List.forall_mem_cons.mpr ⟨hn.isSegment hf, hnames⟩,
      List.forall_mem_cons.mpr ⟨hn.isSegment hf, hsegments⟩⟩
  | item hf _ ht _ ih =>
    obtain ⟨hnames, hsegments⟩ := ih (hn.template hf ht)
    exact ⟨List.forall_mem_cons.mpr ⟨hn.isSegment hf, hnames⟩,
      List.forall_mem_cons.mpr ⟨hn.isSegment hf,
        List.forall_mem_cons.mpr ⟨Path.isSegment_toString _, hsegments⟩⟩⟩

/-- One segment is the one name of a field of the scope. -/
theorem singleton_iff {name : String} :
    Expands fields names [name] g ↔ fields g ∧ g.info.name = name ∧ names = [name] := by
  constructor
  · intro h
    generalize hsegments : [name] = segments at h
    cases h with
    | here hg =>
      obtain ⟨rfl, -⟩ := List.cons.inj hsegments
      exact ⟨hg, rfl, rfl⟩
    | member _ _ hrest => exact absurd (List.cons.inj hsegments).2.symm hrest.ne_nil.2
    | item _ _ _ _ => cases (List.cons.inj hsegments).2
  · rintro ⟨hg, rfl, rfl⟩
    exact .here hg

/-- Segments that go on behind an object field belong to one of its members. -/
theorem member_iff (hd : DistinctNames fields) (hf : fields f) (hk : f.info.kind = .object)
    (hne : segments ≠ []) :
    Expands fields names (f.info.name :: segments) g ↔
      Expands (· ∈ f.fields) (f.namesBelow names) segments g := by
  constructor
  · intro h
    generalize hsegments : f.info.name :: segments = whole at h
    cases h with
    | here _ => exact absurd (List.cons.inj hsegments).2 hne
    | member hf' _ hrest =>
      obtain ⟨hname, rfl⟩ := List.cons.inj hsegments
      obtain rfl := hd _ _ hf hf' hname
      rwa [Field.namesBelow, if_pos rfl]
    | item hf' hk' _ _ =>
      obtain ⟨hname, -⟩ := List.cons.inj hsegments
      obtain rfl := hd _ _ hf hf' hname
      rw [hk] at hk'
      cases hk'
  · intro h
    cases names with
    | nil => exact absurd rfl h.ne_nil.1
    | cons s rest =>
      rw [Field.namesBelow] at h
      split at h
      · next hname => exact hname ▸ .member hf hk h
      · exact absurd rfl h.ne_nil.1

/-- Segments that go on behind a list field and a position belong to a field of its template. -/
theorem item_iff (hd : DistinctNames fields) (hf : fields f) (hk : f.info.kind = .array)
    {items : List Item} (ht : f.itemSchema = some items) {i : Nat} :
    Expands fields names (f.info.name :: toString i :: segments) g ↔
      Expands (Item.Declares items) (f.namesBelow names) segments g := by
  constructor
  · intro h
    generalize hsegments : f.info.name :: toString i :: segments = whole at h
    cases h with
    | here _ => cases (List.cons.inj hsegments).2
    | member hf' hk' _ =>
      obtain ⟨hname, -⟩ := List.cons.inj hsegments
      obtain rfl := hd _ _ hf hf' hname
      rw [hk] at hk'
      cases hk'
    | item hf' _ ht' hrest =>
      obtain ⟨hname, htail⟩ := List.cons.inj hsegments
      obtain ⟨-, rfl⟩ := List.cons.inj htail
      obtain rfl := hd _ _ hf hf' hname
      obtain rfl := Option.some.inj (ht'.symm.trans ht)
      rwa [Field.namesBelow, if_pos rfl]
  · intro h
    cases names with
    | nil => exact absurd rfl h.ne_nil.1
    | cons s rest =>
      rw [Field.namesBelow] at h
      split at h
      · next hname => exact hname ▸ .item hf hk ht h
      · exact absurd rfl h.ne_nil.1

end Expands

/-! ## Changed fields -/

/-- A field with a change to the field that names lead to, if they begin with its own. -/
def Field.changed (g : FieldInfo → FieldInfo) (names : List String) (f : Field) : Field :=
  match names with
  | [] => f
  | s :: rest => if f.info.name = s then Field.changeAt g rest f else f

section

variable {g : FieldInfo → FieldInfo} {names : List String} {f : Field}

/-- Changing the one field of a name changes each field of a list by the names that it begins. -/
theorem Field.changeIn_eq_changed {fs : List Field} (hnodup : (fs.map (·.info.name)).Nodup)
    (s : String) (rest : List String) :
    Field.changeIn s (Field.changeAt g rest) fs = fs.map (Field.changed g (s :: rest)) :=
  Field.changeIn_eq_map hnodup

theorem Field.map_changed_nil (fs : List Field) : fs.map (Field.changed g []) = fs :=
  List.map_id fs

/-- Of the field itself only what the names lead to is changed. -/
theorem Field.changed_info :
    (f.changed g names).info = if names = [f.info.name] then g f.info else f.info := by
  cases names with
  | nil => simp [Field.changed]
  | cons s rest =>
    rw [Field.changed]
    by_cases hname : f.info.name = s
    · rw [if_pos hname]
      cases rest with
      | nil => simp [Field.changeAt, hname]
      | cons t rest =>
        rw [if_neg (by simp), Field.changeAt]
        split <;> rfl
    · rw [if_neg hname, if_neg]
      intro heq
      exact hname (List.cons.inj heq).1.symm

theorem Field.changed_name (hname : ∀ info, (g info).name = info.name) :
    (f.changed g names).info.name = f.info.name := by
  rw [Field.changed_info]
  split
  · exact hname _
  · rfl

theorem Field.changed_kind (hkind : ∀ info, (g info).kind = info.kind) :
    (f.changed g names).info.kind = f.info.kind := by
  rw [Field.changed_info]
  split
  · exact hkind _
  · rfl

/-- The members of an object field are changed by the names that are left. -/
theorem Field.changed_fields (hk : f.info.kind = .object)
    (hnodup : (f.fields.map (·.info.name)).Nodup) :
    (f.changed g names).fields = f.fields.map (Field.changed g (f.namesBelow names)) := by
  cases names with
  | nil => exact (Field.map_changed_nil f.fields).symm
  | cons s rest =>
    rw [Field.changed, Field.namesBelow]
    by_cases hname : f.info.name = s
    · rw [if_pos hname, if_pos hname]
      cases rest with
      | nil => exact (Field.map_changed_nil f.fields).symm
      | cons t rest =>
        rw [Field.changeAt, hk]
        exact Field.changeIn_eq_changed hnodup t rest
    · rw [if_neg hname, if_neg hname, Field.map_changed_nil]

/-- The template of a list field is changed by the names that are left. -/
theorem Field.changed_itemSchema {items : List Item} (hk : f.info.kind = .array)
    (ht : f.itemSchema = some items) (hnodup : ((Item.flatAll items).map (·.info.name)).Nodup) :
    ∃ items', (f.changed g names).itemSchema = some items'
      ∧ Item.flatAll items' = (Item.flatAll items).map (Field.changed g (f.namesBelow names)) := by
  cases names with
  | nil => exact ⟨items, ht, (Field.map_changed_nil _).symm⟩
  | cons s rest =>
    rw [Field.changed, Field.namesBelow]
    by_cases hname : f.info.name = s
    · rw [if_pos hname, if_pos hname]
      cases rest with
      | nil => exact ⟨items, ht, (Field.map_changed_nil _).symm⟩
      | cons t rest =>
        refine ⟨Item.changeIn t (Field.changeAt g rest) items, ?_, ?_⟩
        · rw [Field.changeAt, hk]
          simp [ht]
        · rw [Item.flatAll_changeIn, Field.changeIn_eq_changed hnodup]
    · rw [if_neg hname, if_neg hname]
      exact ⟨items, ht, (Field.map_changed_nil _).symm⟩

end

/-! ## What a change leaves as it is -/

section

variable {strip g : FieldInfo → FieldInfo}

theorem Field.stripAll_changeIn {name : String} {h : Field → Field}
    (hh : ∀ f, (h f).strip strip = f.strip strip) (fs : List Field) :
    Field.stripAll strip (Field.changeIn name h fs) = Field.stripAll strip fs := by
  induction fs with
  | nil => rfl
  | cons f fs ih =>
    rw [Field.changeIn]
    split
    · rw [Field.stripAll, Field.stripAll, hh]
    · rw [Field.stripAll, Field.stripAll, ih]

theorem Item.stripAll_changeIn {name : String} {h : Field → Field}
    (hh : ∀ f, (h f).strip strip = f.strip strip) (items : List Item) :
    Item.stripAll strip (Item.changeIn name h items) = Item.stripAll strip items := by
  induction items using Item.listInduction with
  | nil => rfl
  | field f rest ih =>
    rw [Item.changeIn]
    split
    · rw [Item.change, Item.stripAll, Item.stripAll, Item.strip, Item.strip]
      split
      · rw [hh]
      · rfl
    · rw [Item.stripAll, Item.stripAll, ih]
  | group info inner rest ihInner ihRest =>
    rw [Item.changeIn]
    split
    · rw [Item.change, Item.stripAll, Item.stripAll, Item.strip, Item.strip, ihInner]
    · rw [Item.stripAll, Item.stripAll, ihRest]

/-- A change to what is left out leaves the stripped field as it is, wherever it is made. -/
theorem Field.strip_changeAt (hg : ∀ info, strip (g info) = strip info) (names : List String)
    (f : Field) : (Field.changeAt g names f).strip strip = f.strip strip := by
  induction names generalizing f with
  | nil =>
    obtain ⟨info, template, fields⟩ := f
    rw [Field.changeAt, Field.strip_mk, Field.strip_mk, hg]
  | cons s rest ih =>
    obtain ⟨info, template, fields⟩ := f
    rw [Field.changeAt]
    split
    · rw [Field.strip_mk, Field.strip_mk, Field.stripAll_changeIn ih]
    · rw [Field.strip_mk, Field.strip_mk, Option.map_map]
      congr 2
      funext items
      exact Item.stripAll_changeIn ih items
    · rfl

/-- A form is changed where a path finds a field. -/
theorem Form.change?_eq_none_iff {form : Form} {path : String} :
    form.change? path g = none ↔ form.field? path = none := by
  rw [Form.change?]
  cases hfield : form.field? path with
  | none => simp
  | some f =>
    cases hpieces : Text.pieces '.' path with
    | nil => simp [Form.field?, hpieces] at hfield
    | cons s rest => simp

/-- A form that is changed in what is left out of it is the same stripped form. -/
theorem Form.strip_change? {form form' : Form} {path : String}
    (hg : ∀ info, strip (g info) = strip info) (h : form.change? path g = some form') :
    form'.strip strip = form.strip strip := by
  rw [Form.change?] at h
  split at h
  · obtain rfl := Option.some.inj h
    rw [Form.strip, Form.strip, Item.stripAll_changeIn (Field.strip_changeAt hg _)]
  · cases h

end

end FormLogic
