/-
  FormLogic.Message.Catalog

  The message of a rule for a field: the template of the field if it has
  one, else that of the form, else the default; rendered over the bounds of
  the rule and the name and label of the field.  A template that does not
  render is shown as it stands.

  Specification, section 3 (validation messages) and section 6.3 (message
  catalog).
-/

import FormLogic.Message.RuleKey
import FormLogic.Schema.Form
import FormLogic.Template.Render

namespace FormLogic

/-- Templates given for a form, by the names of rules. -/
abbrev MessageOverrides := Dict String

namespace Message

/-- The template for a rule of a field. -/
def template (overrides : MessageOverrides) (key : RuleKey) (field : FieldInfo) : String :=
  match Dict.get? field.messages key.name with
  | some t => t
  | none => (Dict.get? overrides key.name).getD key.defaultTemplate

/-- What a template can refer to: the parameters of the rule, with the field's name and label on
top. -/
def context (field : FieldInfo) (params : Dict Json) : Json :=
  .object (Dict.insert (Dict.insert params "name" (.string field.name)) "label"
    (.string field.displayLabel))

/-- A template over a context, as it stands if it does not render. -/
def renderOrVerbatim (context : Json) (template : String) : String :=
  (Template.renderOver? context template).getD template

/-- The message for a rule of a field. -/
def resolve (overrides : MessageOverrides) (key : RuleKey) (field : FieldInfo)
    (params : Dict Json) : String :=
  renderOrVerbatim (context field params) (template overrides key field)

/-- From this size on, a whole number is shown with an exponent or a fraction part. -/
def plainLimit : Int := 9000000000000000

/-- A bound as a parameter: whole numbers of moderate size are shown as integers. -/
def boundParam (d : Double) : Json :=
  match d.toInt? with
  | some n => if n.natAbs < plainLimit then .number (.int n) else .number (.double d)
  | none => .number (.double d)

/-- The parameters of a rule with one bound. -/
def bound (name : String) (d : Double) : Dict Json := [(name, boundParam d)]

/-- The parameters of a rule whose bound is a count. -/
def countBound (name : String) (n : Nat) : Dict Json := bound name (Double.ofInt n)

end Message
end FormLogic
