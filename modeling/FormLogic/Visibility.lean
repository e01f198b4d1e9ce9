/-
  FormLogic.Visibility

  Which fields are shown and which are disabled.  A field is shown when its
  own gate is open and everything around it is shown; it is disabled by its
  own flag or conditions alone.  Sub-fields of objects are keyed by their
  dotted paths; templates of arrays are not expanded.

  Specification, section 4.4 (visibility and disablement).
-/

import FormLogic.Schema.Form
import FormLogic.Path

namespace FormLogic

/-- Whether a field is shown and whether it is disabled. -/
structure FieldState where
  visible : Bool
  disabled : Bool
deriving DecidableEq, Repr

namespace FieldInfo

/-- Whether the field's own gate is open. -/
def isVisible (f : FieldInfo) (values : Json) : Bool :=
  f.gate.all fun g => g.isOpen values

/-- Whether the field is disabled, by its flag or by its conditions. -/
def isDisabled (f : FieldInfo) (values : Json) : Bool :=
  f.disabled || f.disabledWhen.any fun c => c.holds values

/-- The state of the field inside surroundings that are shown or not. -/
def state (f : FieldInfo) (values : Json) (around : Bool) : FieldState :=
  ⟨around && f.isVisible values, f.isDisabled values⟩

end FieldInfo

/-- Whether the group's own gate is open. -/
def GroupInfo.isVisible (g : GroupInfo) (values : Json) : Bool :=
  g.gate.all fun g => g.isOpen values

/-! ## The states of all fields -/

mutual

/-- The states of a field and its sub-fields, sub-fields first. -/
def Field.states (values : Json) (path : String) (around : Bool) :
    Field → List (String × FieldState)
  | ⟨info, _, fields⟩ =>
    let own := Path.join path info.name
    let state := info.state values around
    let inner := if info.kind = .object then Field.statesAll values own state.visible fields else []
    inner ++ [(own, state)]

def Field.statesAll (values : Json) (path : String) (around : Bool) :
    List Field → List (String × FieldState)
  | [] => []
  | f :: fs => Field.states values path around f ++ Field.statesAll values path around fs

end

mutual

/-- The states of the fields of an item. -/
def Item.states (values : Json) (around : Bool) : Item → List (String × FieldState)
  | .field f => Field.states values "" around f
  | .group info items => Item.statesAll values (around && info.isVisible values) items

def Item.statesAll (values : Json) (around : Bool) : List Item → List (String × FieldState)
  | [] => []
  | i :: is => Item.states values around i ++ Item.statesAll values around is

end

/-- The state of every field of a form by its path; of two with one path the later counts. -/
def Form.visibility (form : Form) (values : Json) : Dict FieldState :=
  Dict.ofList (Item.statesAll values true form.items)

end FormLogic
