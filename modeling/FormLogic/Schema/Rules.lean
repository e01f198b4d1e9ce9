/-
  FormLogic.Schema.Rules

  The rules of one field: whether a value is required, bounds and formats,
  and a custom check.

  Checks and requirements given as functions carry a number that identifies
  the object they are; two of them are the same only if it is one object.

  Specification, section 3 (validation rule set).
-/

import FormLogic.Condition.Codec

namespace FormLogic

/-! ## Custom checks -/

/-- The verdict of a custom check; a message, if given, replaces the message of the rule. -/
inductive Outcome where
  | valid
  | invalid (message : Option String)
deriving DecidableEq, Repr

/-- Why a custom check gave no verdict. -/
inductive CheckFailure where
  | unavailable (reason : String)
  | failed (reason : String)
deriving DecidableEq, Repr

/-- The wording of a failure. -/
def CheckFailure.message : CheckFailure → String
  | .unavailable reason => "custom rule unavailable: " ++ reason
  | .failed reason => "custom rule failed: " ++ reason

/-- A check of a value (null if missing) within the values of the whole form. -/
structure CustomCheck where
  identity : Nat
  run : Json → Json → Except CheckFailure Outcome

/-- A custom check, if attached, and the paths whose changes call for running it again. -/
structure CustomRule where
  dependencies : List String := []
  check : Option CustomCheck := none

namespace CustomRule

/-- Whether two rules have the same dependencies and the same check object. -/
def same (a b : CustomRule) : Bool :=
  a.dependencies == b.dependencies && a.check.map (·.identity) == b.check.map (·.identity)

/-- The text that describes a rule. -/
def describe (r : CustomRule) : String :=
  "CustomRule \x7b dependencies: " ++ Text.quotedList r.dependencies ++ ", attached: "
    ++ (if r.check.isSome then "true" else "false") ++ " \x7d"

/-- How a custom rule is read. -/
def shape : Json.RecordShape CustomRule where
  name := "CustomRule"
  fields := ["dependencies"]
  read r name v :=
    match name with
    | "dependencies" => (v.asListOf Json.asString).map fun ds => { r with dependencies := ds }
    | _ => .ok r

def decode : Json → Shaped CustomRule := shape.decode {} .ok

def encode (r : CustomRule) : Json :=
  .ofMembers (Json.listMember "dependencies" Json.ofTexts r.dependencies)

end CustomRule

/-! ## Requirements -/

/-- A requirement computed from the values of the whole form. -/
structure ComputedRequirement where
  identity : Nat
  holds : Json → Bool

/-- Whether a value is required: always or never, under a condition, or as computed. -/
inductive RequiredRule where
  | flag (b : Bool)
  | when (logic : Logic)
  | computed (requirement : ComputedRequirement)

/-- Why a description cannot be written as JSON. -/
inductive EncodeError where
  | computedRequirement
deriving DecidableEq, Repr

/-- The wording of an encoding error. -/
def EncodeError.message : EncodeError → String
  | .computedRequirement => "the enum variant RequiredRule::Computed cannot be serialized"

namespace RequiredRule

/-- Whether the rule asks for a value, given the values of the whole form. -/
def asks (r : RequiredRule) (values : Json) : Bool :=
  match r with
  | .flag b => b
  | .when logic => logic.holds values
  | .computed requirement => requirement.holds values

def same : RequiredRule → RequiredRule → Bool
  | .flag a, .flag b => a == b
  | .when a, .when b => a.same b
  | .computed a, .computed b => a.identity == b.identity
  | _, _ => false

def decode (v : Json) : Shaped RequiredRule :=
  match v with
  | .bool b => .ok (.flag b)
  | v =>
    match Logic.read? v with
    | some l => .ok (.when l)
    | none => .error (.noVariantMatches "RequiredRule")

def encode : RequiredRule → Except EncodeError Json
  | .flag b => .ok (.bool b)
  | .when l => .ok l.encode
  | .computed _ => .error .computedRequirement

end RequiredRule

/-! ## Rule sets -/

/-- The rules of a field. -/
structure Rules where
  required : Option RequiredRule := none
  minLength : Option Nat := none
  maxLength : Option Nat := none
  pattern : Option String := none
  email : Bool := false
  min : Option Double := none
  max : Option Double := none
  minItems : Option Nat := none
  maxItems : Option Nat := none
  custom : Option CustomRule := none

namespace Rules

/-- Whether two optional values are both missing or agree. -/
def sameOption {α : Type} (same : α → α → Bool) : Option α → Option α → Bool
  | none, none => true
  | some a, some b => same a b
  | _, _ => false

def same (a b : Rules) : Bool :=
  sameOption RequiredRule.same a.required b.required
    && a.minLength == b.minLength && a.maxLength == b.maxLength && a.pattern == b.pattern
    && a.email == b.email
    && sameOption Double.same a.min b.min && sameOption Double.same a.max b.max
    && a.minItems == b.minItems && a.maxItems == b.maxItems
    && sameOption CustomRule.same a.custom b.custom

/-- How a rule set is read. -/
def shape : Json.RecordShape Rules where
  name := "ValidationRules"
  fields := ["required", "minLength", "maxLength", "pattern", "email", "min", "max", "minItems",
    "maxItems", "custom"]
  read r name v :=
    match name with
    | "required" => (v.asOption RequiredRule.decode).map fun x => { r with required := x }
    | "minLength" => (v.asOption Json.asNatural).map fun x => { r with minLength := x }
    | "maxLength" => (v.asOption Json.asNatural).map fun x => { r with maxLength := x }
    | "pattern" => (v.asOption Json.asString).map fun x => { r with pattern := x }
    | "email" => v.asBool.map fun x => { r with email := x }
    | "min" => (v.asOption Json.asReal).map fun x => { r with min := x }
    | "max" => (v.asOption Json.asReal).map fun x => { r with max := x }
    | "minItems" => (v.asOption Json.asNatural).map fun x => { r with minItems := x }
    | "maxItems" => (v.asOption Json.asNatural).map fun x => { r with maxItems := x }
    | "custom" => (v.asOption CustomRule.decode).map fun x => { r with custom := x }
    | _ => .ok r

def decode : Json → Shaped Rules := shape.decode {} .ok

def encode (r : Rules) : Except EncodeError Json := do
  let required ← r.required.mapM RequiredRule.encode
  return .ofMembers (
    Json.optionalMember "required" id required
      ++ Json.optionalMember "minLength" Json.ofNat r.minLength
      ++ Json.optionalMember "maxLength" Json.ofNat r.maxLength
      ++ Json.optionalMember "pattern" .string r.pattern
      ++ [("email", .bool r.email)]
      ++ Json.optionalMember "min" Json.ofReal r.min
      ++ Json.optionalMember "max" Json.ofReal r.max
      ++ Json.optionalMember "minItems" Json.ofNat r.minItems
      ++ Json.optionalMember "maxItems" Json.ofNat r.maxItems
      ++ Json.optionalMember "custom" CustomRule.encode r.custom)

end Rules
end FormLogic
