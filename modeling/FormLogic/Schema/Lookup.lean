/-
  FormLogic.Schema.Lookup

  Fields of a form by dotted paths.  Groups add no segment; an object field
  leads to its sub-fields and an array field to the fields of its template.
-/

import FormLogic.Schema.Form
import FormLogic.Text.Split

namespace FormLogic

/-! ## Finding -/

mutual

/-- The first field of a name in an item. -/
def Item.find? (name : String) : Item → Option Field
  | .field f => if f.info.name = name then some f else none
  | .group _ items => Item.findIn? name items

/-- The first field of a name in a list of items. -/
def Item.findIn? (name : String) : List Item → Option Field
  | [] => none
  | i :: is =>
    match Item.find? name i with
    | some f => some f
    | none => Item.findIn? name is

end

/-- The field of a name directly below a field. -/
def Field.child? (f : Field) (name : String) : Option Field :=
  match f.info.kind with
  | .object => f.fields.find? fun g => g.info.name = name
  | .array => f.itemSchema.bind (Item.findIn? name)
  | _ => none

/-- The field that segments lead to, from a field on. -/
def Field.descend? (f : Field) : List String → Option Field
  | [] => some f
  | s :: rest => (f.child? s).bind fun g => g.descend? rest

/-- The field at a path. -/
def Form.field? (form : Form) (path : String) : Option Field :=
  match Text.pieces '.' path with
  | [] => none
  | s :: rest => (Item.findIn? s form.items).bind fun f => f.descend? rest

/-! ## Changing -/

mutual

/-- An item with a change to the field of a name. -/
def Item.change (name : String) (h : Field → Field) : Item → Item
  | .field f => .field (if f.info.name = name then h f else f)
  | .group info items => .group info (Item.changeIn name h items)

/-- A list of items with a change to the first field of a name. -/
def Item.changeIn (name : String) (h : Field → Field) : List Item → List Item
  | [] => []
  | i :: is =>
    match Item.find? name i with
    | some _ => Item.change name h i :: is
    | none => i :: Item.changeIn name h is

end

/-- A list of fields with a change to the first of a name. -/
def Field.changeIn (name : String) (h : Field → Field) : List Field → List Field
  | [] => []
  | f :: fs => if f.info.name = name then h f :: fs else f :: Field.changeIn name h fs

/-- A field with a change to the field that segments lead to. -/
def Field.changeAt (g : FieldInfo → FieldInfo) : List String → Field → Field
  | [], f => { f with info := g f.info }
  | s :: rest, f =>
    match f.info.kind with
    | .object => { f with fields := Field.changeIn s (Field.changeAt g rest) f.fields }
    | .array =>
      { f with itemSchema := f.itemSchema.map (Item.changeIn s (Field.changeAt g rest)) }
    | _ => f

/-- A form with a change to the field at a path, if there is one. -/
def Form.change? (form : Form) (path : String) (g : FieldInfo → FieldInfo) : Option Form :=
  match form.field? path, Text.pieces '.' path with
  | some _, s :: rest =>
    some { form with items := Item.changeIn s (Field.changeAt g rest) form.items }
  | _, _ => none

/-- A form with a custom check attached to the field at a path. -/
def Form.attach? (form : Form) (path : String) (check : CustomCheck) : Option Form :=
  form.change? path fun f => f.attach check

/-- A form with another requirement of the field at a path. -/
def Form.require? (form : Form) (path : String) (rule : RequiredRule) : Option Form :=
  form.change? path fun f => f.require rule

end FormLogic
