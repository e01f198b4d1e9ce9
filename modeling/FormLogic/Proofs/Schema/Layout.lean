/-
  FormLogic.Proofs.Schema.Layout

  Forms that are laid out differently.

  A form is rearranged step by step.  A step acts on the front of one list of
  items: it brings the items into another order, puts some of them into a
  group that has no gate, or takes them out of one; or it does one of these
  inside of the first item.  Any place can be brought to the front and back
  again, so that the steps reach all of a form.

    * `Item.Moved` — one step.
    * `Form.Rearranged` — any number of steps.
    * `Item.Moved.statesBelowAll_perm` — a step keeps the states of the
      fields, in some order.
-/

import Mathlib.Data.List.Flatten
import Mathlib.Logic.Relation
import FormLogic.Schema.Form
import FormLogic.Visibility
import FormLogic.Proofs.Schema.Descent

namespace FormLogic

/-! ## Steps -/

/-- A group that has no gate: it is shown wherever it stands. -/
structure GroupInfo.Ungated (info : GroupInfo) : Prop where
  conditional : info.conditional = none
  visibleWhen : info.visibleWhen = none

theorem GroupInfo.Ungated.gate_eq_none {info : GroupInfo} (h : info.Ungated) :
    info.gate = none := by
  rw [GroupInfo.gate, h.conditional, h.visibleWhen]
  rfl

/-- One step of laying out items in another way.  The members of an object are rearranged as items
are, but they do not take groups. -/
inductive Item.Moved : List Item → List Item → Prop
  | perm {items items' : List Item} : items.Perm items' → Moved items items'
  | wrap {info : GroupInfo} {inner rest : List Item} :
      info.Ungated → Moved (inner ++ rest) (.group info inner :: rest)
  | splice {info : GroupInfo} {inner rest : List Item} :
      info.Ungated → Moved (.group info inner :: rest) (inner ++ rest)
  | group {info : GroupInfo} {inner inner' rest : List Item} :
      Moved inner inner' → Moved (.group info inner :: rest) (.group info inner' :: rest)
  | template {info : FieldInfo} {items items' : List Item} {fields : List Field}
      {rest : List Item} :
      Moved items items' →
      Moved (.field ⟨info, some items, fields⟩ :: rest) (.field ⟨info, some items', fields⟩ :: rest)
  | members {info : FieldInfo} {template : Option (List Item)} {fields fields' : List Field}
      {rest : List Item} :
      Moved (fields.map .field) (fields'.map .field) →
      Moved (.field ⟨info, template, fields⟩ :: rest) (.field ⟨info, template, fields'⟩ :: rest)

/-- A form is rearranged to another one: steps lead from the items of the one to those of the
other. -/
def Form.Rearranged (form form' : Form) : Prop :=
  Relation.ReflTransGen Item.Moved form.items form'.items

/-! ## States -/

variable {values : Json} {path : String} {shown : Bool}

mutual

/-- The states of the fields of an item that stands under a path. -/
def Item.statesBelow (values : Json) (path : String) (shown : Bool) :
    Item → List (String × FieldState)
  | .field f => Field.states values path shown f
  | .group info items => Item.statesBelowAll values path (shown && info.isVisible values) items

/-- The states of the fields of items that stand under a path. -/
def Item.statesBelowAll (values : Json) (path : String) (shown : Bool) :
    List Item → List (String × FieldState)
  | [] => []
  | i :: is => Item.statesBelow values path shown i ++ Item.statesBelowAll values path shown is

end

/-- The items of a form stand under the empty path. -/
theorem Item.statesAll_eq (values : Json) (shown : Bool) (items : List Item) :
    Item.statesAll values shown items = Item.statesBelowAll values "" shown items := by
  induction items using Item.listInduction generalizing shown with
  | nil => rfl
  | field f rest ih =>
    rw [Item.statesAll, Item.states, Item.statesBelowAll, Item.statesBelow, ih]
  | group info inner rest ihInner ihRest =>
    rw [Item.statesAll, Item.states, Item.statesBelowAll, Item.statesBelow, ihInner, ihRest]

/-- The members of an object stand under its path. -/
theorem Field.statesAll_eq (values : Json) (path : String) (shown : Bool) (fs : List Field) :
    Field.statesAll values path shown fs
      = Item.statesBelowAll values path shown (fs.map .field) := by
  induction fs with
  | nil => rfl
  | cons f fs ih =>
    rw [Field.statesAll, ih, List.map_cons, Item.statesBelowAll, Item.statesBelow]

theorem Item.statesBelowAll_eq_flatMap (values : Json) (path : String) (shown : Bool)
    (items : List Item) :
    Item.statesBelowAll values path shown items
      = items.flatMap (Item.statesBelow values path shown) := by
  induction items with
  | nil => rfl
  | cons i is ih => rw [Item.statesBelowAll, ih, List.flatMap_cons]

/-- A group without a gate leaves the states of its items as they are. -/
theorem Item.statesBelowAll_ungated {info : GroupInfo} (h : info.Ungated) (inner rest : List Item) :
    Item.statesBelowAll values path shown (.group info inner :: rest)
      = Item.statesBelowAll values path shown (inner ++ rest) := by
  have hvisible : info.isVisible values = true := by
    rw [GroupInfo.isVisible, h.gate_eq_none]
    rfl
  rw [Item.statesBelowAll, Item.statesBelow, hvisible, Bool.and_true,
    Item.statesBelowAll_eq_flatMap, Item.statesBelowAll_eq_flatMap,
    Item.statesBelowAll_eq_flatMap, List.flatMap_append]

/-- A step keeps the states of the fields, in some order. -/
theorem Item.Moved.statesBelowAll_perm {items items' : List Item} (h : Item.Moved items items') :
    (Item.statesBelowAll values path shown items).Perm
      (Item.statesBelowAll values path shown items') := by
  induction h generalizing path shown with
  | perm h =>
    rw [Item.statesBelowAll_eq_flatMap, Item.statesBelowAll_eq_flatMap]
    exact h.flatMap_right _
  | wrap h => rw [Item.statesBelowAll_ungated h]
  | splice h => rw [Item.statesBelowAll_ungated h]
  | group _ ih =>
    rw [Item.statesBelowAll, Item.statesBelowAll, Item.statesBelow, Item.statesBelow]
    exact ih.append_right _
  | template _ _ =>
    -- templates are not looked into
    rw [Item.statesBelowAll, Item.statesBelowAll, Item.statesBelow, Item.statesBelow,
      Field.states, Field.states]
  | members _ ih =>
    rw [Item.statesBelowAll, Item.statesBelowAll, Item.statesBelow, Item.statesBelow,
      Field.states, Field.states, Field.statesAll_eq, Field.statesAll_eq]
    refine List.Perm.append_right _ (List.Perm.append_right _ ?_)
    split
    · exact ih
    · exact List.Perm.refl []

/-- Any number of steps keeps the states of the fields, in some order. -/
theorem Item.statesAll_perm {items items' : List Item}
    (h : Relation.ReflTransGen Item.Moved items items') (values : Json) (shown : Bool) :
    (Item.statesAll values shown items).Perm (Item.statesAll values shown items') := by
  rw [Item.statesAll_eq, Item.statesAll_eq]
  induction h with
  | refl => exact List.Perm.refl _
  | tail _ hstep ih => exact ih.trans hstep.statesBelowAll_perm

end FormLogic
