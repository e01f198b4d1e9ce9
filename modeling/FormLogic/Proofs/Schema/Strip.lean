/-
  FormLogic.Proofs.Schema.Strip

  Forms of which something is left out.

  What is left out of a field is a parameter: `Form.strip g` applies `g` to
  every field of a form, and drops what only describes the form and its
  groups.  Two forms with one stripped form differ in nothing else.

    * `KeepsOutline` — functions that leave of a field what shows or disables
      it.
    * `Form.visibility_strip` — the map of shown fields needs no more.
-/

import FormLogic.Visibility

namespace FormLogic

/-- A group without what only describes it. -/
def GroupInfo.bare (g : GroupInfo) : GroupInfo := { g with title := none, description := none }

mutual

/-- A field with a function applied to it and to every field below it. -/
def Field.strip (g : FieldInfo → FieldInfo) : Field → Field
  | ⟨info, none, fields⟩ => ⟨g info, none, Field.stripAll g fields⟩
  | ⟨info, some items, fields⟩ => ⟨g info, some (Item.stripAll g items), Field.stripAll g fields⟩

def Field.stripAll (g : FieldInfo → FieldInfo) : List Field → List Field
  | [] => []
  | f :: fs => Field.strip g f :: Field.stripAll g fs

/-- An item with a function applied to every field of it; groups are left without description. -/
def Item.strip (g : FieldInfo → FieldInfo) : Item → Item
  | .field f => .field (Field.strip g f)
  | .group info items => .group info.bare (Item.stripAll g items)

def Item.stripAll (g : FieldInfo → FieldInfo) : List Item → List Item
  | [] => []
  | i :: is => Item.strip g i :: Item.stripAll g is

end

/-- A form with a function applied to every field, without what only describes it. -/
def Form.strip (g : FieldInfo → FieldInfo) (form : Form) : Form where
  items := Item.stripAll g form.items

theorem Field.strip_mk (g : FieldInfo → FieldInfo) (info : FieldInfo)
    (template : Option (List Item)) (fields : List Field) :
    Field.strip g ⟨info, template, fields⟩
      = ⟨g info, template.map (Item.stripAll g), Field.stripAll g fields⟩ := by
  cases template <;> rfl

/-- A function on fields leaves their names and kinds, and what shows or disables them. -/
structure KeepsOutline (g : FieldInfo → FieldInfo) : Prop where
  name : ∀ info, (g info).name = info.name
  kind : ∀ info, (g info).kind = info.kind
  gate : ∀ info, (g info).gate = info.gate
  disabled : ∀ info values, (g info).isDisabled values = info.isDisabled values

/-! ## Shown fields -/

variable {g : FieldInfo → FieldInfo}

theorem KeepsOutline.state (hg : KeepsOutline g) (info : FieldInfo) (values : Json)
    (shown : Bool) : (g info).state values shown = info.state values shown := by
  rw [FieldInfo.state, FieldInfo.isVisible, hg.gate, hg.disabled]
  rfl

mutual

theorem Field.states_strip (hg : KeepsOutline g) (values : Json) (path : String) (shown : Bool) :
    ∀ f : Field, Field.states values path shown (f.strip g) = Field.states values path shown f
  | ⟨info, template, fields⟩ => by
    rw [Field.strip_mk, Field.states, Field.states, hg.name, hg.kind, hg.state,
      Field.statesAll_strip hg values _ _ fields]

theorem Field.statesAll_strip (hg : KeepsOutline g) (values : Json) (path : String)
    (shown : Bool) : ∀ fs : List Field,
      Field.statesAll values path shown (Field.stripAll g fs) = Field.statesAll values path shown fs
  | [] => rfl
  | f :: fs => by
    rw [Field.stripAll, Field.statesAll, Field.statesAll, Field.states_strip hg values path shown f,
      Field.statesAll_strip hg values path shown fs]

end

mutual

theorem Item.states_strip (hg : KeepsOutline g) (values : Json) (shown : Bool) :
    ∀ i : Item, Item.states values shown (i.strip g) = Item.states values shown i
  | .field f => by
    rw [Item.strip, Item.states, Item.states, Field.states_strip hg values "" shown f]
  | .group info items => by
    rw [Item.strip, Item.states, Item.states]
    exact Item.statesAll_strip hg values _ items

theorem Item.statesAll_strip (hg : KeepsOutline g) (values : Json) (shown : Bool) :
    ∀ items : List Item,
      Item.statesAll values shown (Item.stripAll g items) = Item.statesAll values shown items
  | [] => rfl
  | i :: is => by
    rw [Item.stripAll, Item.statesAll, Item.statesAll, Item.states_strip hg values shown i,
      Item.statesAll_strip hg values shown is]

end

/-- The map of shown fields is that of the stripped form. -/
theorem Form.visibility_strip (hg : KeepsOutline g) (form : Form) (values : Json) :
    (form.strip g).visibility values = form.visibility values := by
  rw [Form.visibility, Form.visibility, Form.strip, Item.statesAll_strip hg]

end FormLogic
