/-
  FormLogic.Validation.Field

  The validator of one field: its checks in order, whether a value is
  required, and its custom check.  It is compiled once from the field's
  description and the templates of messages, with whatever reader of patterns
  is at hand.

  Specification, section 4.5 (validation schema compiler).  A check that ends in
  an error counts as a message here, and is not logged besides (section 6.2).
-/

import FormLogic.Validation.Check
import FormLogic.Validation.Defect
import FormLogic.Message.Catalog
import FormLogic.Condition.Compare

namespace FormLogic

/-- A custom check with the message for where it gives none. -/
structure CustomStep where
  check : CustomCheck
  message : String

/-- The validator of one field. -/
structure FieldValidator where
  name : String
  kind : FieldKind
  checks : List Check
  requiredFlag : Bool
  requiredRule : Option RequiredRule
  requiredMessage : String
  custom : Option CustomStep
  dependencies : List String

namespace FieldValidator

/-! ## Compiling -/

section Compiling

variable [PatternReader]

/-- The pattern of e-mail addresses. -/
def emailPattern : String := "^[^\\s@]+@[^\\s@]+\\.[^\\s@]+$"

/-- A check with the message of a rule for a field. -/
def check (overrides : MessageOverrides) (field : FieldInfo) (demand : Demand) (key : RuleKey)
    (params : Dict Json) : Check :=
  ⟨demand, Message.resolve overrides key field params⟩

/-- The defect of a field whose lower bound exceeds its upper one, if both are given. -/
def ensureOrdered {α : Type} (exceeds : α → α → Bool) (field : FieldInfo) (bounds : BoundPair)
    (lower upper : Option α) : Except Defect Unit :=
  match lower, upper with
  | some l, some u =>
    if exceeds l u then .error (.conflictingBounds field.name bounds) else .ok ()
  | _, _ => .ok ()

/-- The check of a bound, if it is given. -/
def boundCheck {α : Type} (overrides : MessageOverrides) (field : FieldInfo)
    (demand : α → Demand) (key : RuleKey) (params : α → Dict Json) (bound : Option α) :
    List Check :=
  (bound.map fun b => check overrides field (demand b) key (params b)).toList

/-- The check of a pattern, if one is given. -/
def patternCheck (overrides : MessageOverrides) (field : FieldInfo) (demand : Pattern → Demand)
    (key : RuleKey) (source : Option String) : Except Defect (List Check) :=
  match source with
  | none => .ok []
  | some text =>
    match PatternReader.read text with
    | .ok p => .ok [check overrides field (demand p) key []]
    | .error reason => .error (.invalidPattern field.name reason)

/-- The checks of a field whose values are texts. -/
def textChecks (overrides : MessageOverrides) (field : FieldInfo) :
    Except Defect (List Check) := do
  let rules := field.ruleSet
  ensureOrdered (fun a b => decide (a > b)) field .length rules.minLength rules.maxLength
  let pattern ← patternCheck overrides field .pattern .pattern rules.pattern
  let email ← patternCheck overrides field .email .email
    (if rules.email || field.kind = .email then some emailPattern else none)
  return [check overrides field .isText .string []]
    ++ boundCheck overrides field .minLength .minLength (Message.countBound "min") rules.minLength
    ++ boundCheck overrides field .maxLength .maxLength (Message.countBound "max") rules.maxLength
    ++ pattern ++ email
    ++ (if field.kind = .url then [check overrides field .url .url []] else [])

/-- The checks of a field whose values are numbers. -/
def numberChecks (overrides : MessageOverrides) (field : FieldInfo) :
    Except Defect (List Check) := do
  let rules := field.ruleSet
  ensureOrdered (fun a b => b.lt a) field .range rules.min rules.max
  return [check overrides field .isNumber .number []]
    ++ boundCheck overrides field .min .min (Message.bound "min") rules.min
    ++ boundCheck overrides field .max .max (Message.bound "max") rules.max

/-- The checks of a field whose values are lists. -/
def listChecks (overrides : MessageOverrides) (field : FieldInfo) :
    Except Defect (List Check) := do
  let rules := field.ruleSet
  ensureOrdered (fun a b => decide (a > b)) field .items rules.minItems rules.maxItems
  return [check overrides field .isList .array []]
    ++ boundCheck overrides field .minItems .minItems (Message.countBound "min") rules.minItems
    ++ boundCheck overrides field .maxItems .maxItems (Message.countBound "max") rules.maxItems

/-- The check of a date-like field. -/
def dateCheck (overrides : MessageOverrides) (field : FieldInfo) (k : DateKind) : Check :=
  check overrides field (.isDate k) .date []

/-- The checks of a field by its kind; choices and files take any value. -/
def checksOf (overrides : MessageOverrides) (field : FieldInfo) : Except Defect (List Check) :=
  match field.kind with
  | .text => textChecks overrides field
  | .email => textChecks overrides field
  | .password => textChecks overrides field
  | .url => textChecks overrides field
  | .tel => textChecks overrides field
  | .textarea => textChecks overrides field
  | .hidden => textChecks overrides field
  | .number => numberChecks overrides field
  | .checkbox => .ok [check overrides field .isFlag .boolean []]
  | .date => .ok [dateCheck overrides field .date]
  | .datetime => .ok [dateCheck overrides field .dateTime]
  | .time => .ok [dateCheck overrides field .time]
  | .select => .ok []
  | .radio => .ok []
  | .autocomplete => .ok []
  | .file => .ok []
  | .array => listChecks overrides field
  | .object => .ok [check overrides field .isRecord .object []]

/-- The custom check of a field, if one is attached. -/
def customStep (overrides : MessageOverrides) (field : FieldInfo) : Option CustomStep :=
  (field.custom.bind (·.check)).map fun c =>
    ⟨c, Message.resolve overrides .custom field []⟩

/-- The validator of a field. -/
def compile (overrides : MessageOverrides) (field : FieldInfo) :
    Except Defect FieldValidator := do
  let checks ← checksOf overrides field
  return {
    name := field.name
    kind := field.kind
    checks := checks
    requiredFlag := field.required
    requiredRule := field.ruleSet.required
    requiredMessage := Message.resolve overrides .required field []
    custom := customStep overrides field
    dependencies := field.dependencies }

end Compiling

/-! ## Running -/

/-- Whether a value is required, given the values of the whole form. -/
def isRequired (v : FieldValidator) (values : Json) : Bool :=
  v.requiredFlag || v.requiredRule.any fun r => r.asks values

/-- Whether a value is passed over by the checks: null and the empty text are. -/
def isBlank : Json → Bool
  | .null => true
  | .string s => s = ""
  | _ => false

/-- The message of a custom check, if it does not find the value valid. -/
def customMessage? (step : CustomStep) (value values : Json) : Option String :=
  match step.check.run value values with
  | .ok .valid => none
  | .ok (.invalid message) => some (message.getD step.message)
  | .error _ => some step.message

/-- The message of the checks, if a value fails one of them. -/
def checkMessage? (v : FieldValidator) (value : Json) : Option String :=
  if isBlank value then none else Check.firstViolation? v.checks value

/-- The message for a value within the values of the whole form, if it is not valid.  An empty
value that is required comes first, then the checks, then the custom check; a missing value is
null to these. -/
def validate (v : FieldValidator) (value : Option Json) (values : Json) : Option String :=
  if Condition.isEmpty value && v.isRequired values then some v.requiredMessage
  else
    let value := value.getD .null
    match v.checkMessage? value with
    | some message => some message
    | none => v.custom.bind fun step => customMessage? step value values

/-- The text that describes a validator. -/
def describe (v : FieldValidator) : String :=
  "FieldValidator \x7b name: " ++ Text.quoted v.name ++ ", kind: " ++ v.kind.title ++ ", checks: "
    ++ toString v.checks.length ++ ", custom: " ++ (if v.custom.isSome then "true" else "false")
    ++ " \x7d"

/-! ## Validating single values -/

variable [PatternReader]

/-- The message for one value of a field, if it is not valid. -/
def validateOne (overrides : MessageOverrides) (field : FieldInfo) (value values : Json) :
    Except Defect (Option String) := do
  let v ← compile overrides field
  return v.validate (some value) values

/-- The message for the value of a field under a name; without the values of a form, the form is
taken to have this one only. -/
def validateNamed (overrides : MessageOverrides) (field : FieldInfo) (name : String)
    (value : Json) (values : Option Json) : Except Defect (Option String) :=
  validateOne overrides field value (values.getD (.ofMembers [(name, value)]))

end FieldValidator
end FormLogic
