/-
  FormLogic.Schema.Description

  The description of form files as a JSON Schema.  Members stand in the order
  in which they are to be written.

  Specification, section 10: what the command `schema` prints.
-/

import FormLogic.Schema.Kind

namespace FormLogic
namespace Description

/-! ## Parts -/

def text (s : String) : Json := .string s

/-- A list of texts. -/
def texts (ss : List String) : Json := .array (ss.map .string)

/-- A type by its name. -/
def typed (name : String) : Json := .object [("type", text name)]

/-- A type or null, with what else there is to say. -/
def orNull (name : String) (more : List (String × Json)) : Json :=
  .object (("type", texts [name, "null"]) :: more)

/-- A type defined elsewhere in the description. -/
def ref (name : String) : Json := .object [("$ref", text ("#/$defs/" ++ name))]

/-- A type defined elsewhere, or null. -/
def refOrNull (name : String) : Json :=
  .object [("anyOf", .array [ref name, typed "null"])]

def optionalText : Json := orNull "string" []

/-- A flag that is off unless given. -/
def flag : Json := .object [("type", text "boolean"), ("default", .bool false)]

/-- A list, with what else there is to say before its entries. -/
def listOf (before : List (String × Json)) (entries : Json) : Json :=
  .object (before ++ [("type", text "array"), ("items", entries)])

def optionalReal : Json := orNull "number" [("format", text "double")]

def optionalCount : Json :=
  orNull "integer" [("format", text "uint"), ("minimum", .number (.int 0))]

/-- A map from paths to any values, or null. -/
def optionalMap : Json := orNull "object" [("additionalProperties", .bool true)]

/-- What a type is for, in front of its description. -/
def about (what : String) (more : List (String × Json)) : Json :=
  .object (("description", text what) :: more)

/-- A record: its members in the order of their names, and those that have to be there. -/
def record (members : List (String × Json)) (extras : List (String × Json))
    (required : List String) : List (String × Json) :=
  [("type", text "object"), ("properties", .object members)] ++ extras
    ++ (if required = [] then [] else [("required", texts required)])

/-- A type with alternatives. -/
def anyOf (what : String) (alternatives : List Json) : Json :=
  about what [("anyOf", .array alternatives)]

/-! ## The types of a form file -/

/-- A node with one connective. -/
def connective (name : String) (operand : Json) : Json :=
  .object (record [(name, operand)] [("additionalProperties", .bool false)] [name])

def logicList : Json := listOf [] (ref "ConditionalLogic")

def complexCondition : Json :=
  about "Boolean combination of conditions. Exactly one connective per node."
    [("oneOf", .array [connective "and" logicList, connective "or" logicList,
      connective "not" (ref "ConditionalLogic")])]

def condition : Json :=
  about "One `field operator operand` check."
    (record
      [("field", typed "string"), ("operator", typed "string"), ("value", .bool true),
        ("values", orNull "array" [("items", .bool true)])]
      [] ["field", "operator"])

def conditionalLogic : Json :=
  anyOf
    ("Either an atomic condition or a combinator tree.\n\nShape dispatch happens once at "
      ++ "deserialization: a node carrying a `field`\nkey is atomic, anything else must be an "
      ++ "`and`/`or`/`not` node.")
    [ref "Condition", ref "ComplexCondition"]

def customRule : Json :=
  about
    ("Asynchronous cross-field rule.\n\n`dependencies` lists the paths whose changes should "
      ++ "trigger\nre-validation; the compiled validator never reads it.")
    (record [("dependencies", listOf [] (typed "string"))] [] [])

def fieldGroup : Json :=
  about "Titled set of fields that may be shown or hidden together."
    (record
      [("conditional", refOrNull "ConditionalLogic"), ("description", optionalText),
        ("fields", listOf [] (ref "SchemaItem")), ("title", optionalText),
        ("visibleWhen", optionalMap)]
      [] ["fields"])

def fieldSpec : Json :=
  about "Declarative description of one input."
    (record
      [("conditional", refOrNull "ConditionalLogic"),
        ("defaultValue", .bool true),
        ("description", optionalText),
        ("disabled", flag),
        ("disabledWhen", optionalMap),
        ("fields",
          listOf [("description", text "Sub-fields for `object` fields.")] (ref "FieldSpec")),
        ("itemSchema",
          about "Item template for `array` fields."
            [("type", texts ["array", "null"]), ("items", ref "SchemaItem")]),
        ("label", optionalText),
        ("name", typed "string"),
        ("options",
          listOf
            [("description",
              text "Choices for select, radio and autocomplete inputs; primitives or objects.")]
            (.bool true)),
        ("placeholder", optionalText),
        ("required", flag),
        ("type", ref "FieldType"),
        ("validation", refOrNull "ValidationRules"),
        ("validationMessages",
          .object [("type", text "object"), ("additionalProperties", typed "string")]),
        ("visibleWhen", optionalMap)]
      [("additionalProperties", .bool true)] ["name", "type"])

def fieldType : Json :=
  about "Supported field kinds."
    [("type", text "string"), ("enum", texts (FieldKind.all.map FieldKind.name))]

def requiredRule : Json :=
  anyOf "`validation.required`: a flag, a declarative condition, or a closure."
    [typed "boolean", ref "ConditionalLogic"]

def schemaItem : Json :=
  anyOf "Entry of a form schema: a field or a nested group." [ref "FieldSpec", ref "FieldGroup"]

def validationRules : Json :=
  about "Declarative rule set attached to a field."
    (record
      [("custom", refOrNull "CustomRule"), ("email", flag), ("max", optionalReal),
        ("maxItems", optionalCount), ("maxLength", optionalCount), ("min", optionalReal),
        ("minItems", optionalCount), ("minLength", optionalCount), ("pattern", optionalText),
        ("required", refOrNull "RequiredRule")]
      [] [])

/-! ## The whole description -/

/-- The description of form files. -/
def form : Json :=
  .object
    ([("$schema", text "https://json-schema.org/draft/2020-12/schema"),
        ("title", text "FormSchema"), ("description", text "Top-level form definition.")]
      ++ record
        [("description", optionalText), ("fields", listOf [] (ref "SchemaItem")),
          ("id", optionalText), ("title", optionalText)]
        [] ["fields"]
      ++ [("$defs", .object
        [("ComplexCondition", complexCondition), ("Condition", condition),
          ("ConditionalLogic", conditionalLogic), ("CustomRule", customRule),
          ("FieldGroup", fieldGroup), ("FieldSpec", fieldSpec), ("FieldType", fieldType),
          ("RequiredRule", requiredRule), ("SchemaItem", schemaItem),
          ("ValidationRules", validationRules)])])

end Description
end FormLogic
