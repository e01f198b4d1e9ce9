/-
  FormLogic.Validation.Form

  The validator of a form: a tree of field validators.  Groups leave no node;
  what shows them counts for each of their fields.  An array has a node for
  each field of its template, an object for each of its sub-fields.

    * `visits` — the fields that a document makes to be validated, with
      their paths and values.
    * `validate`, `validateVisible` — the messages of the whole form by path.
    * `validateAt` — the message of one field by its path.

  Specification, section 4.6 (form schema compiler).  There the fields are
  validated side by side, here one after the other: a check is a function of its
  values, so that the order cannot be told from the messages.
-/

import FormLogic.Validation.Field
import FormLogic.Path
import FormLogic.Dict

namespace FormLogic

/-- Where the children of a node find their values: nowhere (there are none), in the entries of
a list, or in the members of an object. -/
inductive ChildScope where
  | nowhere
  | entries
  | members
deriving DecidableEq, Repr

/-- A field in the tree of a form. -/
structure Node where
  gates : List Gate
  validator : FieldValidator
  scope : ChildScope
  children : List Node

/-- The validator of a form. -/
structure FormValidator where
  nodes : List Node

namespace Node

/-- The name of the field. -/
def name (n : Node) : String := n.validator.name

/-- Whether the field is shown. -/
def isVisible (n : Node) (values : Json) : Bool := n.gates.all fun g => g.isOpen values

end Node

/-! ## Compiling -/

section Compiling

variable [PatternReader]

mutual

/-- The node of a field: the path of the scope around it, the gates around it, and the names
taken in the scope are given. -/
def Field.compile (overrides : MessageOverrides) (around : String) (gates : List Gate)
    (taken : List String) : Field → Except Defect Node
  | ⟨info, template, fields⟩ =>
    let path := Path.join around info.name
    if taken.contains info.name then .error (.duplicateField path)
    else
      match FieldValidator.compile overrides info with
      | .error e => .error e
      | .ok validator =>
        let gates := gates ++ info.gate.toList
        match info.kind with
        | .array =>
          match template with
          | none => .error (.missingItemSchema path)
          | some items =>
            match Item.compileAll overrides (Path.join path "*") [] [] items with
            | .error e => .error e
            | .ok children => .ok ⟨gates, validator, .entries, children⟩
        | .object =>
          match Field.compileAll overrides path [] fields with
          | .error e => .error e
          | .ok children => .ok ⟨gates, validator, .members, children⟩
        | _ => .ok ⟨gates, validator, .nowhere, []⟩

def Field.compileAll (overrides : MessageOverrides) (around : String) (taken : List String) :
    List Field → Except Defect (List Node)
  | [] => .ok []
  | f :: fs =>
    match Field.compile overrides around [] taken f with
    | .error e => .error e
    | .ok node =>
      match Field.compileAll overrides around (node.name :: taken) fs with
      | .error e => .error e
      | .ok nodes => .ok (node :: nodes)

/-- The nodes of an item. -/
def Item.compile (overrides : MessageOverrides) (around : String) (gates : List Gate)
    (taken : List String) : Item → Except Defect (List Node)
  | .field f => (Field.compile overrides around gates taken f).map fun node => [node]
  | .group info items =>
    Item.compileAll overrides around (gates ++ info.gate.toList) taken items

def Item.compileAll (overrides : MessageOverrides) (around : String) (gates : List Gate)
    (taken : List String) : List Item → Except Defect (List Node)
  | [] => .ok []
  | i :: is =>
    match Item.compile overrides around gates taken i with
    | .error e => .error e
    | .ok nodes =>
      match Item.compileAll overrides around gates (nodes.map Node.name ++ taken) is with
      | .error e => .error e
      | .ok rest => .ok (nodes ++ rest)

end

/-- The validator of a form. -/
def Form.compile (overrides : MessageOverrides) (form : Form) : Except Defect FormValidator :=
  (Item.compileAll overrides "" [] [] form.items).map FormValidator.mk

end Compiling

/-! ## Visits -/

/-- A field to be validated: where it is, and its value if it has one. -/
structure Visit where
  path : String
  value : Option Json
  validator : FieldValidator

/-- The message of a visit with its path, if the value is not valid. -/
def Visit.finding? (v : Visit) (values : Json) : Option (String × String) :=
  (v.validator.validate v.value values).map fun message => (v.path, message)

/-- The object that the members of an object field are looked up in: a missing object has none,
and where there is something else nothing is looked up. -/
def memberScope : Option Json → Option Json
  | some (.object members) => some (.object members)
  | none => some .null
  | some .null => some .null
  | some _ => none

mutual

/-- The visits of a node and below, those below first: values are looked up in the scope, and
gates see the values around. -/
def Node.visits (visibleOnly : Bool) (scope around : Json) (path : String) : Node → List Visit
  | ⟨gates, validator, kind, children⟩ =>
    if visibleOnly && !gates.all (fun g => g.isOpen around) then []
    else
      let own := Path.join path validator.name
      let value := Path.resolve scope validator.name
      let below :=
        match kind with
        | .nowhere => []
        | .members =>
          match memberScope value with
          | some inner => Node.visitsAll visibleOnly inner around own children
          | none => []
        | .entries =>
          match value with
          | some (.array entries) =>
            entries.zipIdx.flatMap fun (entry, i) =>
              Node.visitsAll visibleOnly entry entry (Path.join own (toString i)) children
          | _ => []
      below ++ [⟨own, value, validator⟩]

def Node.visitsAll (visibleOnly : Bool) (scope around : Json) (path : String) :
    List Node → List Visit
  | [] => []
  | n :: ns =>
    Node.visits visibleOnly scope around path n ++ Node.visitsAll visibleOnly scope around path ns

end

/-- Messages by the paths of the fields that have them. -/
abbrev ErrorMap := Dict String

namespace FormValidator

/-- The number of fields at the top. -/
def size (v : FormValidator) : Nat := v.nodes.length

/-- The visits of a whole document. -/
def visits (v : FormValidator) (visibleOnly : Bool) (values : Json) : List Visit :=
  Node.visitsAll visibleOnly values values "" v.nodes

/-- The messages of visits, by path. -/
def errorsOf (visits : List Visit) (values : Json) : ErrorMap :=
  Dict.ofList (visits.filterMap fun visit => visit.finding? values)

/-- The messages of all fields. -/
def validate (v : FormValidator) (values : Json) : ErrorMap :=
  errorsOf (v.visits false values) values

/-- The messages of the fields that are shown. -/
def validateVisible (v : FormValidator) (values : Json) : ErrorMap :=
  errorsOf (v.visits true values) values

/-! ## Single fields -/

/-- The field that the segments of a path lead to, with its value. -/
def locate (nodes : List Node) (scope : Json) :
    List String → Option (FieldValidator × Option Json)
  | [] => none
  | name :: rest =>
    match nodes.find? fun n => n.name = name with
    | none => none
    | some node =>
      let value := Path.resolve scope name
      match rest with
      | [] => some (node.validator, value)
      | segment :: after =>
        match node.scope with
        | .nowhere => none
        | .members => locate node.children (value.getD .null) (segment :: after)
        | .entries =>
          match value with
          | some (.array entries) =>
            match Path.itemAt? entries segment with
            | some entry => locate node.children entry after
            | none => none
          | _ => none

/-- The message of the field at a path, if there is such a field and its value is not valid. -/
def validateAt (v : FormValidator) (path : String) (values : Json) : Option String :=
  (locate v.nodes values (Path.segments path)).bind fun (field, value) =>
    field.validate value values

end FormValidator

/-! ## Dependencies -/

mutual

/-- The dependencies of a node and below, by path; a star stands for the positions of entries. -/
def Node.dependencies (path : String) : Node → List (String × List String)
  | ⟨_, validator, kind, children⟩ =>
    let own := Path.join path validator.name
    let below :=
      match kind with
      | .nowhere => []
      | .members => Node.dependenciesAll own children
      | .entries => Node.dependenciesAll (Path.join own "*") children
    below ++ (if validator.dependencies = [] then [] else [(own, validator.dependencies)])

def Node.dependenciesAll (path : String) : List Node → List (String × List String)
  | [] => []
  | n :: ns => Node.dependencies path n ++ Node.dependenciesAll path ns

end

/-- The paths whose changes call for validating a field again, by its path. -/
def FormValidator.dependencies (v : FormValidator) : List (String × List String) :=
  Node.dependenciesAll "" v.nodes

/-- Compiles a form and validates a document. -/
def Form.validate [PatternReader] (overrides : MessageOverrides) (form : Form) (values : Json) :
    Except Defect ErrorMap :=
  (form.compile overrides).map fun v => v.validate values

end FormLogic
