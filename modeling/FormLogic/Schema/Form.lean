/-
  FormLogic.Schema.Form

  Forms: a form is a list of items, an item is a field or a group of items,
  an array field has a template of items for its entries, and an object
  field has fields of its own.

  Specification, section 3 (field descriptor, form schema).
-/

import FormLogic.Schema.Kind
import FormLogic.Schema.Rules

namespace FormLogic

/-! ## Gates -/

/-- When something is shown: under a tree of conditions, or under a map of expected values. -/
inductive Gate where
  | logic (l : Logic)
  | compact (c : CompactConditions)

namespace Gate

/-- The gate that counts when both ways of giving one are possible. -/
def choose (conditional : Option Logic) (visibleWhen : Option CompactConditions) : Option Gate :=
  match conditional, visibleWhen with
  | some l, _ => some (.logic l)
  | none, some c => some (.compact c)
  | none, none => none

/-- Whether the gate is open. -/
def isOpen (g : Gate) (values : Json) : Bool :=
  match g with
  | .logic l => l.holds values
  | .compact c => c.holds values

end Gate

/-! ## Fields, groups and forms -/

/-- All of a field but its sub-fields. -/
structure FieldInfo where
  name : String
  kind : FieldKind
  label : Option String := none
  description : Option String := none
  placeholder : Option String := none
  defaultValue : Option Json := none
  required : Bool := false
  disabled : Bool := false
  rules : Option Rules := none
  messages : Dict String := []
  conditional : Option Logic := none
  visibleWhen : Option CompactConditions := none
  disabledWhen : Option CompactConditions := none
  options : List Json := []
  extras : Dict Json := []

/-- All of a group but its items. -/
structure GroupInfo where
  title : Option String := none
  description : Option String := none
  conditional : Option Logic := none
  visibleWhen : Option CompactConditions := none

mutual

/-- A field, with the template for its entries (arrays) and its sub-fields (objects). -/
structure Field where
  info : FieldInfo
  itemSchema : Option (List Item)
  fields : List Field

/-- An entry of a form: a field, or a group of items. -/
inductive Item where
  | field (f : Field)
  | group (info : GroupInfo) (items : List Item)

end

/-- A form. -/
structure Form where
  id : Option String := none
  title : Option String := none
  description : Option String := none
  items : List Item

namespace FieldInfo

/-- The rules of a field, none if not given. -/
def ruleSet (f : FieldInfo) : Rules := f.rules.getD {}

/-- The custom rule of a field. -/
def custom (f : FieldInfo) : Option CustomRule := f.rules.bind (·.custom)

/-- The paths whose changes call for checking the field again. -/
def dependencies (f : FieldInfo) : List String := (f.custom.map (·.dependencies)).getD []

/-- The label shown for a field: its name if it has none. -/
def displayLabel (f : FieldInfo) : String := f.label.getD f.name

/-- When the field is shown. -/
def gate (f : FieldInfo) : Option Gate := Gate.choose f.conditional f.visibleWhen

/-- The field with a custom check attached; declared dependencies stay. -/
def attach (f : FieldInfo) (check : CustomCheck) : FieldInfo :=
  let custom := f.custom.getD {}
  { f with rules := some { f.ruleSet with custom := some { custom with check := some check } } }

/-- The field with another requirement. -/
def require (f : FieldInfo) (rule : RequiredRule) : FieldInfo :=
  { f with rules := some { f.ruleSet with required := some rule } }

/-- Whether two fields have the same properties. -/
def same (a b : FieldInfo) : Bool :=
  a.name == b.name && a.kind == b.kind && a.label == b.label && a.description == b.description
    && a.placeholder == b.placeholder && Json.sameOption a.defaultValue b.defaultValue
    && a.required == b.required && a.disabled == b.disabled
    && Rules.sameOption Rules.same a.rules b.rules
    && a.messages == b.messages
    && Rules.sameOption Logic.same a.conditional b.conditional
    && Rules.sameOption (Json.agreeMembers Number.same) a.visibleWhen b.visibleWhen
    && Rules.sameOption (Json.agreeMembers Number.same) a.disabledWhen b.disabledWhen
    && Json.agreeAll Number.same a.options b.options
    && Json.agreeMembers Number.same a.extras b.extras

end FieldInfo

namespace GroupInfo

/-- When the group is shown. -/
def gate (g : GroupInfo) : Option Gate := Gate.choose g.conditional g.visibleWhen

def same (a b : GroupInfo) : Bool :=
  a.title == b.title && a.description == b.description
    && Rules.sameOption Logic.same a.conditional b.conditional
    && Rules.sameOption (Json.agreeMembers Number.same) a.visibleWhen b.visibleWhen

end GroupInfo

/-! ## Sameness -/

mutual

/-- Whether two fields are the same, sub-fields included. -/
def Field.same : Field → Field → Bool
  | ⟨a, some xs, fs⟩, g =>
    match g with
    | ⟨b, some ys, gs⟩ => a.same b && Item.sameAll xs ys && Field.sameAll fs gs
    | _ => false
  | ⟨a, none, fs⟩, g =>
    match g with
    | ⟨b, none, gs⟩ => a.same b && Field.sameAll fs gs
    | _ => false
termination_by structural f => f

def Field.sameAll : List Field → List Field → Bool
  | [], [] => true
  | f :: fs, g :: gs => Field.same f g && Field.sameAll fs gs
  | _, _ => false
termination_by structural fs => fs

/-- Whether two items are the same. -/
def Item.same : Item → Item → Bool
  | .field f, .field g => Field.same f g
  | .group a xs, .group b ys => a.same b && Item.sameAll xs ys
  | _, _ => false
termination_by structural x => x

def Item.sameAll : List Item → List Item → Bool
  | [], [] => true
  | x :: xs, y :: ys => Item.same x y && Item.sameAll xs ys
  | _, _ => false
termination_by structural xs => xs

end

/-- Whether two forms are the same. -/
def Form.same (a b : Form) : Bool :=
  a.id == b.id && a.title == b.title && a.description == b.description
    && Item.sameAll a.items b.items

end FormLogic
