/-
  FormLogic.Condition.Codec

  Conditions in JSON.  A node is a single check when it reads as one;
  otherwise it must be an object with exactly one member, which is `and` or
  `or` with a list of nodes or `not` with a node.

  Specification, section 3: conditions are told apart by their shape once, when
  they are read.
-/

import FormLogic.Condition.Compact
import FormLogic.Json.Shape

namespace FormLogic

/-! ## Operators and checks -/

namespace Operator

/-- Any name is an operator; one outside the known ones never holds. -/
def decode : Json → Shaped Operator := Json.asNamed fun s => .ok (ofName s)

def encode (o : Operator) : Json := .string o.name

end Operator

namespace Condition

/-- A condition being read. -/
structure Draft where
  field : Option String := none
  operator : Option Operator := none
  value : Option Json := none
  values : Option (List Json) := none

/-- How a condition is read. -/
def shape : Json.RecordShape Draft where
  name := "Condition"
  fields := ["field", "operator", "value", "values"]
  read d name v :=
    match name with
    | "field" => v.asString.map fun s => { d with field := some s }
    | "operator" => (Operator.decode v).map fun o => { d with operator := some o }
    | "value" => (Json.asOption .ok v).map fun x => { d with value := x }
    | "values" => (Json.asOption Json.asList v).map fun xs => { d with values := xs }
    | _ => .ok d

/-- The condition of a draft. -/
def Draft.finish (d : Draft) : Except String Condition :=
  match d.field, d.operator with
  | some field, some operator => .ok ⟨field, operator, d.value, d.values⟩
  | none, _ => .error "field"
  | _, none => .error "operator"

def decode : Json → Shaped Condition := shape.decode {} Draft.finish

def encode (c : Condition) : Json :=
  .ofMembers ([("field", .string c.field), ("operator", c.operator.encode)]
    ++ Json.optionalMember "value" id c.value
    ++ Json.optionalMember "values" .array c.values)

end Condition

/-! ## Trees -/

namespace Logic

mutual

/-- The tree that a document stands for, if any. -/
def read? (v : Json) : Option Logic :=
  match (Condition.decode v).toOption with
  | some c => some (.check c)
  | none =>
    match v with
    | .object [("and", .array parts)] => (readAll? parts).map .and
    | .object [("or", .array parts)] => (readAll? parts).map .or
    | .object [("not", part)] => (read? part).map .not
    | _ => none

/-- The trees that a list of documents stands for. -/
def readAll? : List Json → Option (List Logic)
  | [] => some []
  | v :: vs =>
    match read? v, readAll? vs with
    | some p, some ps => some (p :: ps)
    | _, _ => none

end

/-- The name under which an unreadable tree is reported. -/
def typeName : String := "ConditionalLogic"

def decode (v : Json) : Shaped Logic :=
  match read? v with
  | some l => .ok l
  | none => .error (.noVariantMatches typeName)

/-- The names of the connectives. -/
def connectives : List String := ["and", "or", "not"]

/-- A connective with its parts; a single check is refused. -/
def decodeConnective : Json → Shaped Logic
  | .object [(name, v)] =>
    match name with
    | "and" => (v.asListOf decode).map .and
    | "or" => (v.asListOf decode).map .or
    | "not" => (decode v).map .not
    | _ => .error (.unknownVariant name connectives)
  | .object _ => .error (.wrongValue .map .singleKeyMap)
  | .string s =>
    if s ∈ connectives then .error (.wrongType .unitVariant .newtypeVariant)
    else .error (.unknownVariant s connectives)
  | v => Json.mismatch .stringOrMap v

mutual

def encode : Logic → Json
  | .check c => c.encode
  | .and parts => .object [("and", .array (encodeAll parts))]
  | .or parts => .object [("or", .array (encodeAll parts))]
  | .not part => .object [("not", encode part)]

def encodeAll : List Logic → List Json
  | [] => []
  | p :: ps => encode p :: encodeAll ps

end

end Logic

namespace CompactConditions

def decode : Json → Shaped CompactConditions := Json.asMap

def encode (c : CompactConditions) : Json := .object c

end CompactConditions
end FormLogic
