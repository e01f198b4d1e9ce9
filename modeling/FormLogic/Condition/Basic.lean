/-
  FormLogic.Condition.Basic

  Conditions on a document: one check of the value at a path, or a tree of
  them under `and`, `or` and `not`.  An operator name outside the known ones
  stands for a check that never holds.

  Specification, sections 4.2 (condition evaluator) and 4.3 (boolean
  combinator).  What the evaluator logs (section 6.2) is left out.
-/

import FormLogic.Condition.Compare
import FormLogic.Path

namespace FormLogic

/-- The comparison that a condition makes. -/
inductive Operator where
  | equals
  | notEquals
  | greaterThan
  | lessThan
  | greaterThanOrEqual
  | lessThanOrEqual
  | contains
  | notContains
  | isIn
  | notIn
  | isEmpty
  | isNotEmpty
  | unknown
deriving DecidableEq, Repr

namespace Operator

/-- The operators that a name can ask for. -/
def named : List Operator :=
  [equals, notEquals, greaterThan, lessThan, greaterThanOrEqual, lessThanOrEqual, contains,
    notContains, isIn, notIn, isEmpty, isNotEmpty]

/-- The name of an operator. -/
def name : Operator → String
  | equals => "equals"
  | notEquals => "notEquals"
  | greaterThan => "greaterThan"
  | lessThan => "lessThan"
  | greaterThanOrEqual => "greaterThanOrEqual"
  | lessThanOrEqual => "lessThanOrEqual"
  | contains => "contains"
  | notContains => "notContains"
  | isIn => "in"
  | notIn => "notIn"
  | isEmpty => "isEmpty"
  | isNotEmpty => "isNotEmpty"
  | unknown => "unknown"

/-- The operator that a name asks for. -/
def ofName (s : String) : Operator := (named.find? fun o => o.name = s).getD unknown

end Operator

/-- One check: the value at a path, an operator, and what it is compared with. -/
structure Condition where
  field : String
  operator : Operator
  value : Option Json := none
  values : Option (List Json) := none

namespace Condition

/-- Whether the check holds of a document. -/
def holds (c : Condition) (document : Json) : Bool :=
  let actual := Path.resolve document c.field
  match c.operator with
  | .equals => matchesEqual actual c.value
  | .notEquals => !matchesEqual actual c.value
  | .greaterThan => compareNumbers (fun a b => b.lt a) actual c.value
  | .lessThan => compareNumbers (fun a b => a.lt b) actual c.value
  | .greaterThanOrEqual => compareNumbers (fun a b => b.le a) actual c.value
  | .lessThanOrEqual => compareNumbers (fun a b => a.le b) actual c.value
  | .contains => (containsValue? actual c.value).getD false
  | .notContains => ((containsValue? actual c.value).map not).getD true
  | .isIn => (isMember? actual c.values).getD false
  | .notIn => ((isMember? actual c.values).map not).getD true
  | .isEmpty => isEmpty actual
  | .isNotEmpty => !isEmpty actual
  | .unknown => false

/-- Whether two conditions are the same. -/
def same (a b : Condition) : Bool :=
  a.field == b.field && a.operator == b.operator && Json.sameOption a.value b.value
    && match a.values, b.values with
      | some xs, some ys => Json.agreeAll Number.same xs ys
      | none, none => true
      | _, _ => false

end Condition

/-- A tree of conditions. -/
inductive Logic where
  | check (c : Condition)
  | and (parts : List Logic)
  | or (parts : List Logic)
  | not (part : Logic)

namespace Logic

mutual

/-- Whether the tree holds of a document. -/
def holds (document : Json) : Logic → Bool
  | .check c => c.holds document
  | .and parts => allHold document parts
  | .or parts => anyHolds document parts
  | .not part => !holds document part

/-- Whether all trees of a list hold. -/
def allHold (document : Json) : List Logic → Bool
  | [] => true
  | p :: ps => holds document p && allHold document ps

/-- Whether a tree of a list holds. -/
def anyHolds (document : Json) : List Logic → Bool
  | [] => false
  | p :: ps => holds document p || anyHolds document ps

end

mutual

/-- Whether two trees are the same. -/
def same : Logic → Logic → Bool
  | .check a, .check b => a.same b
  | .and ps, .and qs => sameAll ps qs
  | .or ps, .or qs => sameAll ps qs
  | .not p, .not q => same p q
  | _, _ => false

/-- Whether two lists of trees are the same. -/
def sameAll : List Logic → List Logic → Bool
  | [], [] => true
  | p :: ps, q :: qs => same p q && sameAll ps qs
  | _, _ => false

end

theorem allHold_eq_all (document : Json) (parts : List Logic) :
    allHold document parts = parts.all (holds document) := by
  induction parts with
  | nil => rfl
  | cons p ps ih => simp [allHold, ih]

theorem anyHolds_eq_any (document : Json) (parts : List Logic) :
    anyHolds document parts = parts.any (holds document) := by
  induction parts with
  | nil => rfl
  | cons p ps ih => simp [anyHolds, ih]

end Logic
end FormLogic
