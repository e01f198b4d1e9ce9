/-
  FormLogic.Schema.Codec

  Fields, groups and forms in JSON.

  A field is an object with at least a name and a type; members that are no
  field properties are kept as extras.  An item is a field if it reads as
  one and a group otherwise.  Groups and forms may also be lists of their
  fields in declared order.

  Specification, section 3 (field descriptor, validation rule set, form schema).
-/

import FormLogic.Schema.Form

namespace FormLogic

/-! ## Drafts -/

/-- A field being read. -/
structure Field.Draft where
  name : Option String := none
  kind : Option FieldKind := none
  info : FieldInfo := { name := "", kind := .text }
  itemSchema : Option (List Item) := none
  fields : List Field := []

namespace Field.Draft

/-- Reads one member that is neither sub-fields nor template; an unknown one is kept. -/
def read (d : Field.Draft) (name : String) (v : Json) : Shaped Field.Draft :=
  let i := d.info
  match name with
  | "name" => v.asString.map fun x => { d with name := some x }
  | "type" => (FieldKind.decode v).map fun x => { d with kind := some x }
  | "label" => (v.asOption Json.asString).map fun x => { d with info := { i with label := x } }
  | "description" =>
    (v.asOption Json.asString).map fun x => { d with info := { i with description := x } }
  | "placeholder" =>
    (v.asOption Json.asString).map fun x => { d with info := { i with placeholder := x } }
  | "defaultValue" =>
    (v.asOption .ok).map fun x => { d with info := { i with defaultValue := x } }
  | "required" => v.asBool.map fun x => { d with info := { i with required := x } }
  | "disabled" => v.asBool.map fun x => { d with info := { i with disabled := x } }
  | "validation" => (v.asOption Rules.decode).map fun x => { d with info := { i with rules := x } }
  | "validationMessages" => v.asTexts.map fun x => { d with info := { i with messages := x } }
  | "conditional" =>
    (v.asOption Logic.decode).map fun x => { d with info := { i with conditional := x } }
  | "visibleWhen" =>
    (v.asOption CompactConditions.decode).map fun x => { d with info := { i with visibleWhen := x } }
  | "disabledWhen" =>
    (v.asOption CompactConditions.decode).map fun x => { d with info := { i with disabledWhen := x } }
  | "options" => v.asList.map fun x => { d with info := { i with options := x } }
  | _ => .ok { d with info := { i with extras := i.extras ++ [(name, v)] } }

/-- The field of a draft. -/
def finish (d : Field.Draft) : Shaped Field :=
  match d.name, d.kind with
  | some name, some kind => .ok ⟨{ d.info with name, kind }, d.itemSchema, d.fields⟩
  | none, _ => .error (.missingField "name")
  | _, none => .error (.missingField "type")

end Field.Draft

/-- A group being read. -/
structure GroupInfo.Draft where
  info : GroupInfo := {}
  items : Option (List Item) := none

namespace GroupInfo.Draft

/-- Reads one member that is not the list of items; an unknown one is ignored. -/
def read (d : GroupInfo.Draft) (name : String) (v : Json) : Shaped GroupInfo.Draft :=
  let i := d.info
  match name with
  | "title" => (v.asOption Json.asString).map fun x => { d with info := { i with title := x } }
  | "description" =>
    (v.asOption Json.asString).map fun x => { d with info := { i with description := x } }
  | "conditional" =>
    (v.asOption Logic.decode).map fun x => { d with info := { i with conditional := x } }
  | "visibleWhen" =>
    (v.asOption CompactConditions.decode).map fun x => { d with info := { i with visibleWhen := x } }
  | _ => .ok d

end GroupInfo.Draft

/-- The properties of a group in declared order. -/
def GroupInfo.fieldNames : List String :=
  ["title", "description", "fields", "conditional", "visibleWhen"]

/-! ## Reading -/

mutual

/-- Reads one member of a field into a draft. -/
def Field.readMember (d : Field.Draft) (name : String) : Json → Shaped Field.Draft
  | .array items =>
    match name with
    | "fields" => (Field.readAll items).map fun fs => { d with fields := fs }
    | "itemSchema" => (Item.readAll items).map fun is => { d with itemSchema := some is }
    | _ => d.read name (.array items)
  | v =>
    match name with
    | "fields" => Json.mismatch .sequence v
    | "itemSchema" =>
      match v with
      | .null => .ok { d with itemSchema := none }
      | v => Json.mismatch .sequence v
    | _ => d.read name v

/-- Reads the members of a field into a draft. -/
def Field.readMembers (d : Field.Draft) : List (String × Json) → Shaped Field.Draft
  | [] => .ok d
  | (name, v) :: rest =>
    match Field.readMember d name v with
    | .ok d => Field.readMembers d rest
    | .error e => .error e

/-- Reads a list of fields. -/
def Field.readAll : List Json → Shaped (List Field)
  | [] => .ok []
  | .object members :: rest =>
    match (Field.readMembers {} members).bind Field.Draft.finish with
    | .error e => .error e
    | .ok f =>
      match Field.readAll rest with
      | .error e => .error e
      | .ok fs => .ok (f :: fs)
  | v :: _ => Json.mismatch (.record "FieldSpec") v

/-- Reads one member of a group into a draft. -/
def Item.readGroupMember (d : GroupInfo.Draft) (name : String) : Json → Shaped GroupInfo.Draft
  | .array items =>
    match name with
    | "fields" => (Item.readAll items).map fun is => { d with items := some is }
    | _ => d.read name (.array items)
  | v =>
    match name with
    | "fields" => Json.mismatch .sequence v
    | _ => d.read name v

/-- Reads the members of a group into a draft. -/
def Item.readGroupMembers (d : GroupInfo.Draft) : List (String × Json) → Shaped GroupInfo.Draft
  | [] => .ok d
  | (name, v) :: rest =>
    match Item.readGroupMember d name v with
    | .ok d => Item.readGroupMembers d rest
    | .error e => .error e

/-- Reads the properties of a group, given in declared order, into a draft. -/
def Item.readGroupList (d : GroupInfo.Draft) : List String → List Json → Shaped GroupInfo.Draft
  | name :: names, v :: rest =>
    match Item.readGroupMember d name v with
    | .ok d => Item.readGroupList d names rest
    | .error e => .error e
  | _, _ => .ok d

/-- The item that a document stands for: a field if it reads as one, else a group. -/
def Item.read? : Json → Option Item
  | .object members =>
    match (Field.readMembers {} members).bind Field.Draft.finish with
    | .ok f => some (.field f)
    | .error _ =>
      match Item.readGroupMembers {} members with
      | .ok ⟨info, some items⟩ => some (.group info items)
      | _ => none
  | .array properties =>
    match Item.readGroupList {} GroupInfo.fieldNames properties with
    | .ok ⟨info, some items⟩ =>
      if properties.length ≤ GroupInfo.fieldNames.length then some (.group info items) else none
    | _ => none
  | _ => none

/-- Reads a list of items. -/
def Item.readAll : List Json → Shaped (List Item)
  | [] => .ok []
  | v :: rest =>
    match Item.read? v with
    | none => .error (.noVariantMatches "SchemaItem")
    | some i =>
      match Item.readAll rest with
      | .error e => .error e
      | .ok is => .ok (i :: is)

end

def Field.decode : Json → Shaped Field
  | .object members => (Field.readMembers {} members).bind Field.Draft.finish
  | v => Json.mismatch (.record "FieldSpec") v

def Item.decode (v : Json) : Shaped Item :=
  match Item.read? v with
  | some i => .ok i
  | none => .error (.noVariantMatches "SchemaItem")

/-- How a group is read on its own. -/
def GroupInfo.shape : Json.RecordShape GroupInfo.Draft where
  name := "FieldGroup"
  fields := GroupInfo.fieldNames
  read := Item.readGroupMember

/-- Reads a group: its properties and its items. -/
def GroupInfo.decode : Json → Shaped (GroupInfo × List Item) :=
  GroupInfo.shape.decode {} fun d =>
    match d.items with
    | some items => .ok (d.info, items)
    | none => .error "fields"

namespace Form

/-- A form being read. -/
structure Draft where
  id : Option String := none
  title : Option String := none
  description : Option String := none
  items : Option (List Item) := none

/-- How a form is read. -/
def shape : Json.RecordShape Draft where
  name := "FormSchema"
  fields := ["id", "title", "description", "fields"]
  read d name v :=
    match name with
    | "id" => (v.asOption Json.asString).map fun x => { d with id := x }
    | "title" => (v.asOption Json.asString).map fun x => { d with title := x }
    | "description" => (v.asOption Json.asString).map fun x => { d with description := x }
    | "fields" => (v.asList.bind Item.readAll).map fun x => { d with items := some x }
    | _ => .ok d

def decode : Json → Shaped Form :=
  shape.decode {} fun d =>
    match d.items with
    | some items => .ok ⟨d.id, d.title, d.description, items⟩
    | none => .error "fields"

end Form

/-! ## Writing -/

/-- The members of a field other than its template and sub-fields. -/
def FieldInfo.encode (f : FieldInfo) : Except EncodeError (List (String × Json)) := do
  let rules ← f.rules.mapM Rules.encode
  return f.extras
    ++ [("name", .string f.name), ("type", f.kind.encode)]
    ++ Json.optionalMember "label" .string f.label
    ++ Json.optionalMember "description" .string f.description
    ++ Json.optionalMember "placeholder" .string f.placeholder
    ++ Json.optionalMember "defaultValue" id f.defaultValue
    ++ [("required", .bool f.required), ("disabled", .bool f.disabled)]
    ++ Json.optionalMember "validation" id rules
    ++ Json.listMember "validationMessages" Json.ofTextDict f.messages
    ++ Json.optionalMember "conditional" Logic.encode f.conditional
    ++ Json.optionalMember "visibleWhen" CompactConditions.encode f.visibleWhen
    ++ Json.optionalMember "disabledWhen" CompactConditions.encode f.disabledWhen
    ++ Json.listMember "options" .array f.options

/-- The members of a group other than its items. -/
def GroupInfo.encode (g : GroupInfo) : List (String × Json) :=
  Json.optionalMember "title" .string g.title
    ++ Json.optionalMember "description" .string g.description
    ++ Json.optionalMember "conditional" Logic.encode g.conditional
    ++ Json.optionalMember "visibleWhen" CompactConditions.encode g.visibleWhen

mutual

def Field.encode : Field → Except EncodeError Json
  | ⟨info, some items, fields⟩ => do
    let members ← info.encode
    let items ← Item.encodeAll items
    let fields ← Field.encodeAll fields
    return .ofMembers (members ++ [("itemSchema", .array items)]
      ++ Json.listMember "fields" .array fields)
  | ⟨info, none, fields⟩ => do
    let members ← info.encode
    let fields ← Field.encodeAll fields
    return .ofMembers (members ++ Json.listMember "fields" .array fields)

def Field.encodeAll : List Field → Except EncodeError (List Json)
  | [] => .ok []
  | f :: fs => do
    let v ← Field.encode f
    let vs ← Field.encodeAll fs
    return v :: vs

def Item.encode : Item → Except EncodeError Json
  | .field f => Field.encode f
  | .group info items => do
    let items ← Item.encodeAll items
    return .ofMembers (info.encode ++ [("fields", .array items)])

def Item.encodeAll : List Item → Except EncodeError (List Json)
  | [] => .ok []
  | i :: is => do
    let v ← Item.encode i
    let vs ← Item.encodeAll is
    return v :: vs

end

def Form.encode (f : Form) : Except EncodeError Json := do
  let items ← Item.encodeAll f.items
  return .ofMembers (
    Json.optionalMember "id" .string f.id
      ++ Json.optionalMember "title" .string f.title
      ++ Json.optionalMember "description" .string f.description
      ++ [("fields", .array items)])

end FormLogic
