/-
  FormLogic.Proofs.Schema.Nesting

  Where a field stands in a form: inside which groups and objects, and under
  which names.

  Groups come first on the way to a field, then objects; only the objects
  give a name to the path.  Templates of lists open a scope of their own and
  are not entered.  Where the names of every scope are distinct, the names
  alone tell what a field stands in, and a field whose names continue those
  of an object stands below this object.

    * `Form.Nests` — a field with the groups and objects around it.
    * `Form.NamesInOrder` — names are proper segments, distinct in each scope.
    * `Form.Nests.eq_or_below` — what the names tell.
-/

import Mathlib.Data.List.Nodup
import Mathlib.Data.List.Pairwise
import Mathlib.Tactic.ByContra
import FormLogic.Proofs.Validation.Occurrences
import FormLogic.Proofs.Path.Segments

namespace FormLogic

/-! ## Groups and objects around a field -/

/-- What a field can stand in: a group, or a field that is an object. -/
inductive Enclosure where
  | group (info : GroupInfo)
  | object (info : FieldInfo)

/-- `f.Nests around segs g`: from the field `f` the names lead, through members of objects, to the
field `g`; `around` are these objects, from the outermost. -/
inductive Field.Nests : Field → List Enclosure → List String → Field → Prop
  | here {f : Field} : Nests f [] [f.info.name] f
  | member {f g h : Field} {around : List Enclosure} {segs : List String} :
      f.info.kind = .object → g ∈ f.fields → Nests g around segs h →
      Nests f (.object f.info :: around) (f.info.name :: segs) h

/-- The same from an item: a group stands around what is in it and adds no name. -/
inductive Item.Nests : Item → List Enclosure → List String → Field → Prop
  | field {f g : Field} {around : List Enclosure} {segs : List String} :
      f.Nests around segs g → Nests (.field f) around segs g
  | group {info : GroupInfo} {items : List Item} {i : Item} {g : Field}
      {around : List Enclosure} {segs : List String} :
      i ∈ items → Nests i around segs g → Nests (.group info items) (.group info :: around) segs g

/-- A field of a form that is reached through groups and objects: all that is around it, from the
outermost, and the names that lead there. -/
def Form.Nests (form : Form) (around : List Enclosure) (segs : List String) (f : Field) : Prop :=
  ∃ i ∈ form.items, i.Nests around segs f

/-- In every scope of a form the names are proper segments, and distinct. -/
def Form.NamesInOrder (form : Form) : Prop :=
  ∀ path fields, form.HasScope path fields →
    (∀ f ∈ fields, Path.isSegment f.info.name = true) ∧ (fields.map (·.info.name)).Nodup

/-- The names are in order where each is a segment that no field before it in its scope has. -/
theorem Form.namesInOrder_iff {form : Form} :
    form.NamesInOrder ↔ ∀ o ∈ form.occurrences, Path.isSegment o.field.info.name = true
      ∧ o.field.info.name ∉ o.before.map (·.info.name) := by
  constructor
  · intro h o ho
    obtain ⟨back, hscope⟩ := Form.mem_occurrences_iff.mp ho
    obtain ⟨hsegments, hnames⟩ := h _ _ hscope
    exact ⟨hsegments _ (by simp), nodup_names_iff.mp hnames _ _ _ rfl⟩
  · intro h path fields hscope
    have hfield : ∀ before f after, fields = before ++ f :: after →
        Path.isSegment f.info.name = true ∧ f.info.name ∉ before.map (·.info.name) := by
      rintro before f after rfl
      exact h ⟨path, before, f⟩ (Form.mem_occurrences_iff.mpr ⟨after, hscope⟩)
    constructor
    · intro f hf
      obtain ⟨before, after, hsplit⟩ := List.append_of_mem hf
      exact (hfield before f after hsplit).1
    · exact nodup_names_iff.mpr fun before f after hsplit => (hfield before f after hsplit).2

instance (form : Form) : Decidable form.NamesInOrder :=
  decidable_of_iff _ Form.namesInOrder_iff.symm

variable {form : Form} {around around' : List Enclosure} {segs rest path : List String}
  {fields : List Field} {f g g' : Field} {i j : Item}

/-! ## Names -/

theorem Field.Nests.eq_cons (h : f.Nests around segs g) :
    ∃ rest, segs = f.info.name :: rest := by
  cases h with
  | here => exact ⟨[], rfl⟩
  | member _ _ _ => exact ⟨_, rfl⟩

/-- The names that lead to a field are proper segments. -/
theorem Field.Nests.isSegment (h : f.Nests around segs g) (hn : form.NamesInOrder)
    (hscope : form.HasScope path fields) (hf : f ∈ fields) :
    ∀ s ∈ segs, Path.isSegment s = true := by
  induction h generalizing path fields with
  | here => exact List.forall_mem_singleton.mpr ((hn _ _ hscope).1 _ hf)
  | member hk hg _ ih =>
    have hmembers := hscope.inner hf (Field.inner?_of_object hk)
    exact List.forall_mem_cons.mpr ⟨(hn _ _ hscope).1 _ hf, ih hmembers hg⟩

theorem Item.flatAll_eq_flatMap (items : List Item) :
    Item.flatAll items = items.flatMap Item.flat := by
  induction items with
  | nil => rfl
  | cons i is ih => rw [Item.flatAll, ih, List.flatMap_cons]

theorem Item.mem_flatAll_of_mem {items : List Item} (hi : i ∈ items) (hf : f ∈ i.flat) :
    f ∈ Item.flatAll items := by
  rw [Item.flatAll_eq_flatMap]
  exact List.mem_flatMap_of_mem hi hf

/-- What an item leads to is reached from one of its own fields. -/
theorem Item.Nests.exists_field (h : i.Nests around segs g) :
    ∃ f ∈ i.flat, ∃ objects, f.Nests objects segs g := by
  induction h with
  | @field f _ around _ hf => exact ⟨f, List.mem_singleton_self f, around, hf⟩
  | group hi _ ih =>
    obtain ⟨f, hf, hnests⟩ := ih
    rw [Item.flat]
    exact ⟨f, Item.mem_flatAll_of_mem hi hf, hnests⟩

/-- An item leads only to names that begin with the name of one of its fields. -/
theorem Item.Nests.exists_name (h : i.Nests around segs g) :
    ∃ name rest, segs = name :: rest ∧ name ∈ i.flat.map (·.info.name) := by
  obtain ⟨f, hf, objects, hnests⟩ := h.exists_field
  obtain ⟨rest, rfl⟩ := hnests.eq_cons
  exact ⟨f.info.name, rest, rfl, List.mem_map_of_mem hf⟩

/-! ## Names determine where a field stands -/

/-- Two items of a scope with distinct names that share a name are one. -/
theorem Item.eq_of_name_mem {items : List Item} {name : String}
    (hn : ((Item.flatAll items).map (·.info.name)).Nodup) (hi : i ∈ items) (hj : j ∈ items)
    (hni : name ∈ i.flat.map (·.info.name)) (hnj : name ∈ j.flat.map (·.info.name)) : i = j := by
  rw [Item.flatAll_eq_flatMap, List.map_flatMap, List.nodup_flatMap] at hn
  by_contra hne
  have : Std.Symm (Function.onFun List.Disjoint fun i : Item => i.flat.map (·.info.name)) :=
    ⟨fun _ _ h _ hname hname' => h hname' hname⟩
  exact hn.2.forall hi hj hne hni hnj

/-- The names of the items of a group are distinct if those of the group are. -/
theorem Item.nodup_flat_of_mem {items : List Item}
    (hn : ((Item.flatAll items).map (·.info.name)).Nodup) (hi : i ∈ items) :
    (i.flat.map (·.info.name)).Nodup := by
  rw [Item.flatAll_eq_flatMap, List.map_flatMap, List.nodup_flatMap] at hn
  exact hn.1 i hi

/-- From one field, the names that lead to a second field and go on lead to a third below it, or,
if they end there, to the second one again. -/
theorem Field.Nests.eq_or_below (h : f.Nests around segs g) (hn : form.NamesInOrder)
    (hscope : form.HasScope path fields) (hf : f ∈ fields)
    (h' : f.Nests around' (segs ++ rest) g') :
    (rest = [] ∧ around' = around ∧ g' = g)
      ∨ (rest ≠ [] ∧ ∃ more, around' = around ++ .object g.info :: more) := by
  induction h generalizing path fields around' with
  | @here f =>
    generalize hsegs : [f.info.name] ++ rest = segs' at h'
    cases h' with
    | here => exact Or.inl ⟨(List.cons.inj hsegs).2, rfl, rfl⟩
    | member hk hg hnests =>
      -- what is below has a name of its own
      obtain ⟨more, rfl⟩ := hnests.eq_cons
      have hrest : rest = _ :: more := (List.cons.inj hsegs).2
      exact Or.inr ⟨by simp [hrest], _, rfl⟩
  | @member f c g around segs hk hc hnests ih =>
    generalize hsegs : (f.info.name :: segs) ++ rest = segs' at h'
    obtain ⟨more, rfl⟩ := hnests.eq_cons
    cases h' with
    | here => exact absurd (List.cons.inj hsegs).2 (List.cons_ne_nil _ _)
    | @member _ c' _ around' segs' _ hc' hnests' =>
      have hsegs : (c.info.name :: more) ++ rest = segs' := (List.cons.inj hsegs).2
      obtain ⟨more', rfl⟩ := hnests'.eq_cons
      -- both ways go through the member with the next name
      have hmembers := hscope.inner hf (Field.inner?_of_object hk)
      have hname : c.info.name = c'.info.name := (List.cons.inj hsegs).1
      obtain rfl := List.inj_on_of_nodup_map (hn _ _ hmembers).2 hc hc' hname
      rw [← hsegs] at hnests'
      rcases ih hmembers hc hnests' with ⟨hrest, rfl, rfl⟩ | ⟨hrest, below, rfl⟩
      · exact Or.inl ⟨hrest, rfl, rfl⟩
      · exact Or.inr ⟨hrest, below, rfl⟩

/-- The same from one item of a form. -/
theorem Item.Nests.eq_or_below (h : i.Nests around segs g) (hn : form.NamesInOrder)
    (hscope : form.HasScope path fields) (hi : ∀ f ∈ i.flat, f ∈ fields)
    (hflat : (i.flat.map (·.info.name)).Nodup) (h' : i.Nests around' (segs ++ rest) g') :
    (rest = [] ∧ around' = around ∧ g' = g)
      ∨ (rest ≠ [] ∧ ∃ more, around' = around ++ .object g.info :: more) := by
  induction h generalizing around' with
  | field hnests =>
    cases h' with
    | field hnests' =>
      exact hnests.eq_or_below hn hscope (hi _ (List.mem_singleton_self _)) hnests'
  | @group info items i g around segs hmem hnests ih =>
    cases h' with
    | @group _ _ j _ around' _ hmem' hnests' =>
      -- both ways begin with a name that only one item of the group has
      obtain ⟨name, more, rfl, hname⟩ := hnests.exists_name
      obtain ⟨name', more', hsegs, hname'⟩ := hnests'.exists_name
      obtain rfl : name = name' := (List.cons.inj hsegs).1
      rw [Item.flat] at hflat
      obtain rfl := Item.eq_of_name_mem hflat hmem hmem' hname hname'
      rw [Item.flat] at hi
      have hfields : ∀ f ∈ i.flat, f ∈ fields :=
        fun f hf => hi f (Item.mem_flatAll_of_mem hmem hf)
      rcases ih hfields (Item.nodup_flat_of_mem hflat hmem) hnests' with
        ⟨hrest, rfl, rfl⟩ | ⟨hrest, below, rfl⟩
      · exact Or.inl ⟨hrest, rfl, rfl⟩
      · exact Or.inr ⟨hrest, below, rfl⟩

namespace Form.Nests

/-- The names that lead to a field of a form are proper segments. -/
theorem isSegment (h : form.Nests around segs f) (hn : form.NamesInOrder) :
    ∀ s ∈ segs, Path.isSegment s = true := by
  obtain ⟨i, hi, hnests⟩ := h
  obtain ⟨f, hf, objects, hnests⟩ := hnests.exists_field
  exact hnests.isSegment hn .top (Item.mem_flatAll_of_mem hi hf)

theorem ne_nil (h : form.Nests around segs f) : segs ≠ [] := by
  obtain ⟨i, -, hnests⟩ := h
  obtain ⟨name, rest, rfl, -⟩ := hnests.exists_name
  exact List.cons_ne_nil _ _

/-- The names that lead to a field and go on lead to a field below it, or, if they end there, to
this very field. -/
theorem eq_or_below (h : form.Nests around segs g) (hn : form.NamesInOrder)
    (h' : form.Nests around' (segs ++ rest) g') :
    (rest = [] ∧ around' = around ∧ g' = g)
      ∨ (rest ≠ [] ∧ ∃ more, around' = around ++ .object g.info :: more) := by
  obtain ⟨i, hi, hnests⟩ := h
  obtain ⟨j, hj, hnests'⟩ := h'
  have htop : ((Item.flatAll form.items).map (·.info.name)).Nodup := (hn _ _ .top).2
  -- both ways begin with a name that only one item of the form has
  obtain ⟨name, more, rfl, hname⟩ := hnests.exists_name
  obtain ⟨name', more', hsegs, hname'⟩ := hnests'.exists_name
  obtain rfl : name = name' := (List.cons.inj hsegs).1
  obtain rfl := Item.eq_of_name_mem htop hi hj hname hname'
  exact hnests.eq_or_below hn .top (fun f hf => Item.mem_flatAll_of_mem hi hf)
    (Item.nodup_flat_of_mem htop hi) hnests'

/-- Names lead to one field only. -/
theorem unique (h : form.Nests around segs g) (hn : form.NamesInOrder)
    (h' : form.Nests around' segs g') : around' = around ∧ g' = g := by
  rw [← List.append_nil segs] at h'
  rcases h.eq_or_below hn h' with ⟨-, heq⟩ | ⟨hne, -⟩
  · exact heq
  · exact absurd rfl hne

end Form.Nests

end FormLogic
