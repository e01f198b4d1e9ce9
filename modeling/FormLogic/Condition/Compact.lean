/-
  FormLogic.Condition.Compact

  Conditions written as a map from paths to expected values.  All entries
  must hold.  An expected object with a name that starts with `$` is a set of
  comparisons, which must all hold; anything else must equal the value found.

  Specification, section 4.3 (simple conditions).
-/

import FormLogic.Condition.Basic

namespace FormLogic

/-- Paths with the values expected there. -/
abbrev CompactConditions := Dict Json

namespace CompactConditions

/-- One comparison of the value found with an operand. -/
def comparisonHolds (actual : Option Json) (name : String) (operand : Json) : Bool :=
  match name with
  | "$in" => (Condition.isMember? actual operand.items?).getD false
  | "$notIn" => ((Condition.isMember? actual operand.items?).map not).getD true
  | "$gt" => Condition.compareNumbers (fun a b => b.lt a) actual (some operand)
  | "$lt" => Condition.compareNumbers (fun a b => a.lt b) actual (some operand)
  | "$gte" => Condition.compareNumbers (fun a b => b.le a) actual (some operand)
  | "$lte" => Condition.compareNumbers (fun a b => a.le b) actual (some operand)
  | "$contains" => (Condition.containsValue? actual (some operand)).getD false
  | "$isEmpty" =>
    match operand with
    | .bool expected => Condition.isEmpty actual == expected
    | _ => false
  | _ => false

/-- Whether a name marks a comparison. -/
def isComparison (name : String) : Bool := name.toList.head? == some '$'

/-- Whether the value found meets what is expected. -/
def entryHolds (actual : Option Json) (expected : Json) : Bool :=
  match expected with
  | .object members =>
    if members.any fun m => isComparison m.1 then
      members.all fun m => comparisonHolds actual m.1 m.2
    else actual.any fun a => Condition.strictEq a expected
  | _ => actual.any fun a => Condition.strictEq a expected

/-- Whether all entries hold of a document. -/
def holds (conditions : CompactConditions) (document : Json) : Bool :=
  conditions.all fun c => entryHolds (Path.resolve document c.1) c.2

end CompactConditions
end FormLogic
