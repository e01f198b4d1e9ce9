/-
  FormLogic.Proofs.Condition.Compact

  Maps of expected values, read as trees of conditions.

  An entry asks for something at its path.  A set of comparisons asks for one
  condition per comparison, anything else for a single condition of equality.
  `toLogic` puts the conditions of all entries under one `and`.

    * `comparisonHolds_eq` — a comparison holds as its condition does.
    * `entryHolds_eq` — an entry holds as all of its conditions do.
    * `CompactConditions.holds_toLogic` — a map holds as its tree does.
-/

import FormLogic.Condition.Compact

namespace FormLogic
namespace CompactConditions

/-! ## The conditions of an entry -/

/-- The condition that a comparison stands for.  An unknown name stands for one that never holds,
and so does a question for emptiness without an answer to compare with. -/
def comparison (path name : String) (operand : Json) : Condition :=
  match name with
  | "$gt" => { field := path, operator := .greaterThan, value := some operand }
  | "$lt" => { field := path, operator := .lessThan, value := some operand }
  | "$gte" => { field := path, operator := .greaterThanOrEqual, value := some operand }
  | "$lte" => { field := path, operator := .lessThanOrEqual, value := some operand }
  | "$contains" => { field := path, operator := .contains, value := some operand }
  | "$in" => { field := path, operator := .isIn, values := operand.items? }
  | "$notIn" => { field := path, operator := .notIn, values := operand.items? }
  | "$isEmpty" =>
    match operand with
    | .bool true => { field := path, operator := .isEmpty }
    | .bool false => { field := path, operator := .isNotEmpty }
    | _ => { field := path, operator := .unknown }
  | _ => { field := path, operator := .unknown }

/-- The condition that the value at a path equals what is expected. -/
def equality (path : String) (expected : Json) : Condition :=
  { field := path, operator := .equals, value := some expected }

/-- The conditions that an entry stands for: one for each member of an object that has a
comparison among its members, else the one of equality. -/
def entryConditions (path : String) (expected : Json) : List Condition :=
  match expected with
  | .object members =>
    if members.any fun m => isComparison m.1 then members.map fun m => comparison path m.1 m.2
    else [equality path expected]
  | _ => [equality path expected]

/-- The tree that a map stands for: the conditions of all its entries. -/
def toLogic (conditions : CompactConditions) : Logic :=
  .and ((conditions.flatMap fun c => entryConditions c.1 c.2).map .check)

/-! ## Meaning -/

variable (document : Json) (path : String)

/-- Being empty as asked is being empty, or not being so. -/
theorem isEmpty_comparison (operand : Json) :
    comparisonHolds (Path.resolve document path) "$isEmpty" operand
      = (comparison path "$isEmpty" operand).holds document := by
  cases operand with
  | bool expected =>
    cases expected with
    | true => simp [comparisonHolds, comparison, Condition.holds]
    | false => simp [comparisonHolds, comparison, Condition.holds]
  | _ => rfl

/-- A comparison holds of the value at a path as its condition does. -/
theorem comparisonHolds_eq (name : String) (operand : Json) :
    comparisonHolds (Path.resolve document path) name operand
      = (comparison path name operand).holds document := by
  -- both sides look the name up in a table of their own; the two tables have the same names
  unfold comparisonHolds
  split
  case h_8 => exact isEmpty_comparison document path operand
  case h_9 => simp [comparison, Condition.holds, *]
  all_goals rfl

/-- A value equals what is expected where there is one and it does. -/
theorem equality_holds (expected : Json) :
    (equality path expected).holds document
      = (Path.resolve document path).any fun a => Condition.strictEq a expected := by
  cases h : Path.resolve document path <;>
    simp [equality, Condition.holds, Condition.matchesEqual, h]

/-- An entry holds as all of its conditions do. -/
theorem entryHolds_eq (expected : Json) :
    entryHolds (Path.resolve document path) expected
      = (entryConditions path expected).all fun c => c.holds document := by
  cases expected with
  | object members =>
    by_cases hany : (members.any fun m => isComparison m.1) = true
    · simp only [entryHolds, entryConditions, if_pos hany, List.all_map]
      congr 1
      funext m
      exact comparisonHolds_eq document path m.1 m.2
    · simp [entryHolds, entryConditions, if_neg hany, equality_holds]
  | _ => simp [entryHolds, entryConditions, equality_holds]

/-- A map of expected values holds of a document exactly where its tree of conditions does. -/
theorem holds_toLogic (conditions : CompactConditions) (document : Json) :
    conditions.holds document = conditions.toLogic.holds document := by
  calc conditions.holds document
      = conditions.all fun c => (entryConditions c.1 c.2).all fun d => d.holds document :=
        List.all_congr rfl fun c => entryHolds_eq document c.1 c.2
    _ = (conditions.flatMap fun c => entryConditions c.1 c.2).all fun d => d.holds document := by
        rw [List.all_flatMap]
    _ = conditions.toLogic.holds document := by
        rw [toLogic, Logic.holds, Logic.allHold_eq_all, List.all_map]
        rfl

/-- A range with an excluded value, and a value that must be null. -/
example : toLogic [("age", .object [("$gte", .number (.int 18)), ("$notIn", .array [])]),
    ("left", .null)]
    = .and [.check ⟨"age", .greaterThanOrEqual, some (.number (.int 18)), none⟩,
      .check ⟨"age", .notIn, none, some []⟩, .check ⟨"left", .equals, some .null, none⟩] := rfl

end CompactConditions
end FormLogic
