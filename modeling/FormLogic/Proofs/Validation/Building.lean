/-
  FormLogic.Proofs.Validation.Building

  What the node of a field has from around the field.

  Compiling hands down the path around a field, the gates around it and the
  names that are taken.  Of these only the gates come into the node.  The
  path is for the wording of defects, and the names decide only whether the
  name of the field is free.  What compiles in one place therefore compiles
  to the same nodes in every place where its names are free.

    * `Field.compile_eq_ok_iff` — what the node of a field is made of.
    * `Item.compileAll_anywhere_iff` — items compile by themselves or not at
      all.
    * `Item.compileAll_cons_apart_iff`, `Item.compileAll_append_iff` — and piece
      by piece, the pieces having no name in common.
    * `Form.nodup_names` — no name is repeated in a scope that compiles.
-/

import FormLogic.Proofs.Validation.FirstDefect

namespace FormLogic

variable [PatternReader] {overrides : MessageOverrides} {around around' : String}
  {gates : List Gate} {taken taken' : List String}

/-! ## Fields and items in front -/

/-- A field compiles if its name is free, its rules compile, and so do the fields below it. -/
theorem Field.compile_eq_ok_iff {f : Field} {n : Node} :
    Field.compile overrides around gates taken f = .ok n ↔
      f.info.name ∉ taken ∧ FieldValidator.compile overrides f.info = .ok n.validator
        ∧ n.gates = gates ++ f.info.gate.toList
        ∧ Field.Compiled overrides (Path.join around f.info.name) f n := by
  refine ⟨Field.compile_cases, ?_⟩
  obtain ⟨info, template, fields⟩ := f
  obtain ⟨nodeGates, validator, scope, children⟩ := n
  rintro ⟨hfree, hv, rfl, hcompiled⟩
  have htaken : taken.contains info.name = false := by simpa using hfree
  rw [Field.compile]
  simp only [htaken, Bool.false_eq_true, if_false, hv]
  cases hcompiled with
  | entries hk ht hs hc =>
    cases ht
    cases hs
    simp only [show info.kind = .array from hk, hc]
  | members hk hs hc =>
    cases hs
    simp only [show info.kind = .object from hk, show Field.compileAll _ _ _ fields = _ from hc]
  | nowhere harray hobject hs hc =>
    cases hs
    cases hc
    split
    · next hk => exact absurd hk harray
    · next hk => exact absurd hk hobject
    · rfl

theorem Item.compileAll_cons_iff {i : Item} {is : List Item} {nodes : List Node} :
    Item.compileAll overrides around gates taken (i :: is) = .ok nodes ↔
      ∃ front rest, Item.compile overrides around gates taken i = .ok front
        ∧ Item.compileAll overrides around gates (front.map Node.name ++ taken) is = .ok rest
        ∧ nodes = front ++ rest := by
  refine ⟨Item.compileAll_cons, ?_⟩
  rintro ⟨front, rest, hfront, hrest, rfl⟩
  rw [Item.compileAll]
  simp only [hfront, hrest]

/-! ## Compiling in another place -/

/-- A field compiles to the same node wherever its name is free. -/
def Field.CompilesAnywhere (overrides : MessageOverrides) (f : Field) : Prop :=
  ∀ around around' gates taken taken' n,
    Field.compile overrides around gates taken f = .ok n → f.info.name ∉ taken' →
    Field.compile overrides around' gates taken' f = .ok n

/-- What compiles behind other nodes has names that these have not. -/
theorem Item.free_behind {items : List Item} {front back : List Node}
    (h : Item.compileAll overrides around gates (front.map Node.name ++ taken) items = .ok back)
    (hfree : ∀ n ∈ front ++ back, n.name ∉ taken') :
    ∀ n ∈ back, n.name ∉ front.map Node.name ++ taken' := by
  intro n hn hmem
  rcases List.mem_append.mp hmem with hmem | hmem
  · exact (Item.compileAll_scopeOf h).2 n hn (List.mem_append_left _ hmem)
  · exact hfree n (List.mem_append_right _ hn) hmem

/-- Items compile to the same nodes wherever their names are free, if their fields do. -/
theorem Item.compileAll_elsewhere {items : List Item} {nodes : List Node}
    (hfields : ∀ f ∈ Item.flatAll items, f.CompilesAnywhere overrides)
    (h : Item.compileAll overrides around gates taken items = .ok nodes)
    (hfree : ∀ n ∈ nodes, n.name ∉ taken') :
    Item.compileAll overrides around' gates taken' items = .ok nodes := by
  induction items using Item.listInduction generalizing gates taken taken' nodes with
  | nil => exact h
  | field f rest ih =>
    rw [Item.flatAll_field_cons] at hfields
    obtain ⟨hf, hrest⟩ := List.forall_mem_cons.mp hfields
    obtain ⟨front, back, hfront, hback, rfl⟩ := Item.compileAll_cons_iff.mp h
    have hbehind := Item.free_behind hback hfree
    obtain ⟨node, hnode, rfl⟩ := Except.map_eq_ok.mp hfront
    have hname : node.name = f.info.name := Field.CompilesTo.name_eq ⟨_, _, _, hnode⟩
    have hfirst : f.info.name ∉ taken' := hname ▸ hfree node List.mem_cons_self
    refine Item.compileAll_cons_iff.mpr ⟨[node], back, ?_, ih hrest hback hbehind, rfl⟩
    rw [Item.compile, hf _ _ _ _ _ _ hnode hfirst]
    rfl
  | group info inner rest ihInner ihRest =>
    rw [Item.flatAll_group_cons] at hfields
    obtain ⟨hinner, hrest⟩ := List.forall_mem_append.mp hfields
    obtain ⟨front, back, hfront, hback, rfl⟩ := Item.compileAll_cons_iff.mp h
    have hbehind := Item.free_behind hback hfree
    refine Item.compileAll_cons_iff.mpr ⟨front, back, ?_, ihRest hrest hback hbehind, rfl⟩
    exact ihInner hinner hfront fun n hn => hfree n (List.mem_append_left _ hn)

/-- Every field compiles to the same node wherever its name is free. -/
theorem Field.compilesAnywhere (f : Field) : f.CompilesAnywhere overrides := by
  induction f using Field.innerInduction with
  | step f ih =>
    intro around around' gates taken taken' n h hfree
    obtain ⟨-, hv, hgates, hcompiled⟩ := Field.compile_eq_ok_iff.mp h
    refine Field.compile_eq_ok_iff.mpr ⟨hfree, hv, hgates, ?_⟩
    -- below the field nothing is taken; only the path is another one
    cases hcompiled with
    | entries hk ht hs hc =>
      have hfields := ih _ _ (Field.inner?_of_array hk ht)
      exact .entries hk ht hs (Item.compileAll_elsewhere hfields hc fun _ _ => List.not_mem_nil)
    | members hk hs hc =>
      have hfields := ih _ _ (Field.inner?_of_object hk)
      rw [← Item.flatAll_map_field f.fields] at hfields
      rw [Field.compileAll_eq] at hc
      refine .members hk hs ?_
      rw [Field.compileAll_eq]
      exact Item.compileAll_elsewhere hfields hc fun _ _ => List.not_mem_nil
    | nowhere harray hobject hs hc => exact .nowhere harray hobject hs hc

/-- Items compile by themselves or not at all: in another place it is only asked whether the names
of their nodes are free. -/
theorem Item.compileAll_anywhere_iff {items : List Item} {nodes : List Node} :
    Item.compileAll overrides around gates taken items = .ok nodes ↔
      Item.compileAll overrides "" gates [] items = .ok nodes
        ∧ ∀ n ∈ nodes, n.name ∉ taken := by
  have hfields : ∀ f ∈ Item.flatAll items, f.CompilesAnywhere overrides :=
    fun f _ => f.compilesAnywhere
  constructor
  · intro h
    exact ⟨Item.compileAll_elsewhere hfields h fun _ _ => List.not_mem_nil,
      (Item.compileAll_scopeOf h).2⟩
  · rintro ⟨h, hfree⟩
    exact Item.compileAll_elsewhere hfields h hfree

/-- The first item compiles apart from those behind it, which have none of its names. -/
theorem Item.compileAll_cons_apart_iff {i : Item} {is : List Item}
    {nodes : List Node} :
    Item.compileAll overrides "" gates [] (i :: is) = .ok nodes ↔
      ∃ front back, Item.compile overrides "" gates [] i = .ok front
        ∧ Item.compileAll overrides "" gates [] is = .ok back
        ∧ (∀ n ∈ back, n.name ∉ front.map Node.name) ∧ nodes = front ++ back := by
  rw [Item.compileAll_cons_iff]
  constructor
  · rintro ⟨front, back, hfront, hback, rfl⟩
    rw [List.append_nil] at hback
    obtain ⟨hback, hfree⟩ := Item.compileAll_anywhere_iff.mp hback
    exact ⟨front, back, hfront, hback, hfree, rfl⟩
  · rintro ⟨front, back, hfront, hback, hfree, rfl⟩
    rw [← List.append_nil (front.map Node.name)] at hfree
    exact ⟨front, back, hfront, Item.compileAll_anywhere_iff.mpr ⟨hback, hfree⟩, rfl⟩

/-- Items compile piece by piece, where no piece has a name of one before it. -/
theorem Item.compileAll_append_iff {xs ys : List Item} {nodes : List Node} :
    Item.compileAll overrides "" gates [] (xs ++ ys) = .ok nodes ↔
      ∃ front back, Item.compileAll overrides "" gates [] xs = .ok front
        ∧ Item.compileAll overrides "" gates [] ys = .ok back
        ∧ (∀ n ∈ back, n.name ∉ front.map Node.name) ∧ nodes = front ++ back := by
  induction xs generalizing nodes with
  | nil =>
    constructor
    · intro h
      exact ⟨[], nodes, rfl, h, fun _ _ => List.not_mem_nil, rfl⟩
    · rintro ⟨front, back, hfront, hback, -, rfl⟩
      obtain rfl := Except.ok.inj hfront
      exact hback
  | cons x xs ih =>
    rw [List.cons_append, Item.compileAll_cons_apart_iff]
    constructor
    · rintro ⟨first, rest, hfirst, hrest, hfree, rfl⟩
      obtain ⟨front, back, hfront, hback, hbehind, rfl⟩ := ih.mp hrest
      obtain ⟨hfrontFree, hbackFree⟩ := List.forall_mem_append.mp hfree
      refine ⟨first ++ front, back, Item.compileAll_cons_apart_iff.mpr
        ⟨first, front, hfirst, hfront, hfrontFree, rfl⟩, hback, fun n hn => ?_,
        (List.append_assoc _ _ _).symm⟩
      rw [List.map_append, List.mem_append, not_or]
      exact ⟨hbackFree n hn, hbehind n hn⟩
    · rintro ⟨front, back, hfront, hback, hbehind, rfl⟩
      obtain ⟨first, next, hfirst, hnext, hfree, rfl⟩ := Item.compileAll_cons_apart_iff.mp hfront
      rw [List.map_append] at hbehind
      -- what is behind all pieces has no name of the first, nor of the others
      have hrest : Item.compileAll overrides "" gates [] (xs ++ ys) = .ok (next ++ back) :=
        ih.mpr ⟨next, back, hnext, hback,
          fun n hn hmem => hbehind n hn (List.mem_append_right _ hmem), rfl⟩
      have hbackFree : ∀ n ∈ back, n.name ∉ first.map Node.name :=
        fun n hn hmem => hbehind n hn (List.mem_append_left _ hmem)
      exact ⟨first, next ++ back, hfirst, hrest, List.forall_mem_append.mpr ⟨hfree, hbackFree⟩,
        List.append_assoc _ _ _⟩

/-! ## Names -/

/-- A scope of declared fields is one of those that are left without the groups. -/
theorem ScopeOf.of_declares {items : List Item} {nodes : List Node}
    (hs : ScopeOf overrides (Item.Declares items) nodes) :
    ScopeOf overrides (· ∈ Item.flatAll items) nodes :=
  Item.declares_eq_mem items ▸ hs

/-- No name is repeated among the fields of items that compile. -/
theorem Item.nodup_names {items : List Item} {nodes : List Node}
    (h : Item.compileAll overrides around gates taken items = .ok nodes) :
    ((Item.flatAll items).map (·.info.name)).Nodup := by
  rw [← Item.compileAll_names h]
  exact (Item.compileAll_scopeOf h).1.distinct

theorem Form.nodup_names {form : Form} {v : FormValidator} (h : form.compile overrides = .ok v) :
    ((Item.flatAll form.items).map (·.info.name)).Nodup := by
  obtain ⟨nodes, hnodes, -⟩ := Except.map_eq_ok.mp h
  exact Item.nodup_names hnodes

namespace Field.CompilesTo

variable {f : Field} {n : Node}

theorem nodup_entries (h : f.CompilesTo overrides n) (hk : f.info.kind = .array)
    {items : List Item} (ht : f.itemSchema = some items) :
    ((Item.flatAll items).map (·.info.name)).Nodup := by
  obtain ⟨_, _, _, h⟩ := h
  cases (Field.compile_cases h).2.2.2 with
  | entries _ ht' _ hc =>
    obtain rfl := Option.some.inj (ht'.symm.trans ht)
    exact Item.nodup_names hc
  | members hk' _ _ => simp [hk] at hk'
  | nowhere hk' _ _ _ => exact absurd hk hk'

theorem nodup_members (h : f.CompilesTo overrides n) (hk : f.info.kind = .object) :
    (f.fields.map (·.info.name)).Nodup := by
  obtain ⟨_, _, _, h⟩ := h
  cases (Field.compile_cases h).2.2.2 with
  | entries hk' _ _ _ => simp [hk] at hk'
  | members _ _ hc =>
    rw [Field.compileAll_eq] at hc
    simpa only [Item.flatAll_map_field] using Item.nodup_names hc
  | nowhere _ hk' _ _ => exact absurd hk hk'

end Field.CompilesTo
end FormLogic
