/-
  FormLogic.Proofs.Condition.Meaning

  What a tree of conditions means, and what of it is lost when it is written
  and read back.

  A tree holds by its checks: two ways of deciding the checks that agree on
  each of them agree on the tree.  Reading gives no null for the operand of a
  check, so that a written tree means the same unless one of its checks
  compares with null.

    * `Logic.treeInduction` — an induction over trees, with what is claimed
      of each part of a list; `Logic.checksInduction` from what all checks
      of a tree have in common.
    * `Logic.holds_congr` — a tree holds of two documents alike where each of
      its checks does.
    * `Condition.holds_withoutNull_iff` — a check means the same without a
      null operand exactly if it does not compare with null.
    * `Logic.holds_of_decode_encode` — a tree, written and read back.
-/

import FormLogic.Proofs.Condition.RoundTrip
import FormLogic.Proofs.Path.Segments

namespace FormLogic

/-! ## The checks of a tree -/

namespace Logic

/-- An induction over trees: what holds of every check, and of a connective as soon as it does of
its parts, holds of every tree. -/
theorem treeInduction {P : Logic → Prop} (check : ∀ c, P (.check c))
    (and : ∀ parts, (∀ p ∈ parts, P p) → P (.and parts))
    (or : ∀ parts, (∀ p ∈ parts, P p) → P (.or parts))
    (not : ∀ part, P part → P (.not part)) (l : Logic) : P l := by
  cases l with
  | check c => exact check c
  | and parts => exact and parts fun p _ => treeInduction check and or not p
  | or parts => exact or parts fun p _ => treeInduction check and or not p
  | not part => exact not part (treeInduction check and or not part)

mutual

/-- The checks of a tree. -/
def checks : Logic → List Condition
  | .check c => [c]
  | .and parts => checksAll parts
  | .or parts => checksAll parts
  | .not part => checks part

/-- The checks of a list of trees. -/
def checksAll : List Logic → List Condition
  | [] => []
  | p :: ps => checks p ++ checksAll ps

end

theorem mem_checksAll {parts : List Logic} {c : Condition} :
    c ∈ checksAll parts ↔ ∃ p ∈ parts, c ∈ p.checks := by
  induction parts with
  | nil => simp [checksAll]
  | cons p ps ih => simp [checksAll, ih]

theorem withoutNullsAll_eq_map (parts : List Logic) :
    withoutNullsAll parts = parts.map withoutNulls := by
  induction parts with
  | nil => rfl
  | cons p ps ih => rw [withoutNullsAll, ih, List.map_cons]

/-- Two tests that agree on the members of a list agree on whether all of them pass. -/
theorem all_congr_of_mem {α : Type} {xs : List α} {t t' : α → Bool}
    (h : ∀ x ∈ xs, t x = t' x) : xs.all t = xs.all t' := by
  rw [Bool.eq_iff_iff, List.all_eq_true, List.all_eq_true]
  exact forall₂_congr fun x hx => by rw [h x hx]

/-- And they agree on whether any of them does. -/
theorem any_congr_of_mem {α : Type} {xs : List α} {t t' : α → Bool}
    (h : ∀ x ∈ xs, t x = t' x) : xs.any t = xs.any t' := by
  rw [Bool.eq_iff_iff, List.any_eq_true, List.any_eq_true]
  exact exists_congr fun x => and_congr_right fun hx => by rw [h x hx]

/-- What holds of a check that meets a condition, and of a connective as soon as it does of its
parts, holds of a tree whose checks all meet the condition. -/
theorem checksInduction {Q : Condition → Prop} {P : Logic → Prop}
    (check : ∀ c, Q c → P (.check c))
    (and : ∀ parts, (∀ p ∈ parts, P p) → P (.and parts))
    (or : ∀ parts, (∀ p ∈ parts, P p) → P (.or parts))
    (not : ∀ part, P part → P (.not part)) {l : Logic} (h : ∀ c ∈ l.checks, Q c) : P l := by
  induction l using treeInduction with
  | check c => exact check c (h c (List.mem_singleton_self c))
  | and parts ih =>
    exact and parts fun p hp => ih p hp fun c hc => h c (mem_checksAll.mpr ⟨p, hp, hc⟩)
  | or parts ih =>
    exact or parts fun p hp => ih p hp fun c hc => h c (mem_checksAll.mpr ⟨p, hp, hc⟩)
  | not part ih => exact not part (ih h)

/-- A tree holds of two documents alike where each of its checks does. -/
theorem holds_congr {l : Logic} {d d' : Json} (h : ∀ c ∈ l.checks, c.holds d = c.holds d') :
    l.holds d = l.holds d' := by
  refine checksInduction (P := fun l => l.holds d = l.holds d') (fun c hc => hc) ?_ ?_ ?_ h
  · intro parts hparts
    rw [holds, holds, allHold_eq_all, allHold_eq_all, all_congr_of_mem hparts]
  · intro parts hparts
    rw [holds, holds, anyHolds_eq_any, anyHolds_eq_any, any_congr_of_mem hparts]
  · intro part hpart
    rw [holds, holds, hpart]

/-- Without its null operands a tree holds as before where each of its checks does. -/
theorem holds_withoutNulls {l : Logic} {d : Json}
    (h : ∀ c ∈ l.checks, c.withoutNull.holds d = c.holds d) :
    l.withoutNulls.holds d = l.holds d := by
  refine checksInduction (P := fun l => l.withoutNulls.holds d = l.holds d)
    (fun c hc => hc) ?_ ?_ ?_ h
  · intro parts hparts
    rw [withoutNulls, holds, holds, allHold_eq_all, allHold_eq_all, withoutNullsAll_eq_map,
      List.all_map]
    exact all_congr_of_mem hparts
  · intro parts hparts
    rw [withoutNulls, holds, holds, anyHolds_eq_any, anyHolds_eq_any, withoutNullsAll_eq_map,
      List.any_map]
    exact any_congr_of_mem hparts
  · intro part hpart
    rw [withoutNulls, holds, holds, hpart]

end Logic

/-! ## Null operands -/

namespace Path

/-- There is nothing at any path of null. -/
theorem resolve_null (path : String) : resolve .null path = none := by
  have hwalk : walk .null (segments path) = none := by
    cases h : segments path with
    | nil => exact absurd h (segments_ne_nil path)
    | cons s rest => rfl
  simp [resolve, Json.members?, hwalk]

/-- The only member of an object is found under its name. -/
theorem resolve_member {name : String} (h : name ≠ "") (v : Json) :
    resolve (.object [(name, v)]) name = some v := by
  simp [resolve, h, Json.members?, Dict.get?_cons]

end Path

namespace Operator

/-- Whether an operator is about equality, which a missing value can have with a missing operand. -/
def isEquality : Operator → Bool
  | equals => true
  | notEquals => true
  | _ => false

/-- Whether an operator looks at the single operand where a value is found. -/
def takesOperand : Operator → Bool
  | greaterThan => true
  | lessThan => true
  | greaterThanOrEqual => true
  | lessThanOrEqual => true
  | contains => true
  | notContains => true
  | _ => false

end Operator

namespace Condition

/-- Whether a check compares with null.  One of equality does so for every document; any other
needs a value to be found, which the empty path has none of. -/
def comparesWithNull (c : Condition) : Bool :=
  match c.value with
  | some .null => c.operator.isEquality || (c.operator.takesOperand && c.field != "")
  | _ => false

/-- The value that a check of an operator other than equality finds and tells null from a missing
operand by. -/
def tellingValue : Operator → Json
  | .greaterThan => .number (.int 1)
  | .lessThan => .number (.int (-1))
  | .contains => .array [.null]
  | .notContains => .array [.null]
  | _ => .null

theorem withoutNull_of_value_ne {c : Condition} (h : c.value ≠ some .null) :
    c.withoutNull = c := by
  rw [withoutNull, Json.dropNull_eq_self h]

/-- Null and a missing operand are the same to a check that does not compare with null. -/
theorem holds_withoutNull {c : Condition} (h : c.comparesWithNull = false) (d : Json) :
    c.withoutNull.holds d = c.holds d := by
  obtain ⟨field, operator, value, values⟩ := c
  by_cases hv : value = some .null
  · subst hv
    simp only [comparesWithNull, Bool.or_eq_false_iff, Bool.and_eq_false_iff] at h
    obtain ⟨hequality, hoperand⟩ := h
    rcases hoperand with hoperand | hfield
    · -- membership and emptiness have no single operand
      cases operator
      case equals | notEquals => simp [Operator.isEquality] at hequality
      case isIn | notIn | isEmpty | isNotEmpty | unknown => rfl
      all_goals simp [Operator.takesOperand] at hoperand
    · -- at the empty path nothing is found that could be compared
      have hnone : Path.resolve d field = none := by
        simp [Path.resolve, show field = "" by simpa using hfield]
      cases operator
      case equals | notEquals => simp [Operator.isEquality] at hequality
      case isIn | notIn | isEmpty | isNotEmpty | unknown => rfl
      case contains | notContains => simp [holds, withoutNull, hnone, containsValue?]
      all_goals simp [holds, withoutNull, hnone, compareNumbers, toNumber?]
  · rw [withoutNull_of_value_ne hv]

/-- A check that compares with null is decided otherwise without an operand, by some document. -/
theorem exists_holds_withoutNull_ne {c : Condition} (h : c.comparesWithNull = true) :
    ∃ d, c.withoutNull.holds d ≠ c.holds d := by
  obtain ⟨field, operator, value, values⟩ := c
  have hvalue : value = some .null := by
    rw [comparesWithNull] at h
    split at h
    · assumption
    · cases h
  subst hvalue
  simp only [comparesWithNull, Bool.or_eq_true, Bool.and_eq_true] at h
  rcases h with hequality | ⟨hoperand, hfield⟩
  · -- nothing is found, which equals nothing but not null
    refine ⟨.null, ?_⟩
    cases operator
    case equals | notEquals =>
      simp [holds, withoutNull, Json.dropNull, Path.resolve_null, matchesEqual]
    all_goals simp [Operator.isEquality] at hequality
  · have hfound : Path.resolve (.object [(field, tellingValue operator)]) field
        = some (tellingValue operator) := Path.resolve_member (by simpa using hfield) _
    refine ⟨.object [(field, tellingValue operator)], ?_⟩
    cases operator
    case greaterThan | lessThan | greaterThanOrEqual | lessThanOrEqual | contains | notContains =>
      simp only [holds, withoutNull, Json.dropNull, hfound]
      decide +kernel
    all_goals simp [Operator.takesOperand] at hoperand

/-- A check means the same without a null operand exactly if it does not compare with null. -/
theorem holds_withoutNull_iff (c : Condition) :
    (∀ d, c.withoutNull.holds d = c.holds d) ↔ c.comparesWithNull = false := by
  constructor
  · intro h
    by_contra hnull
    obtain ⟨d, hd⟩ := exists_holds_withoutNull_ne (Bool.eq_true_of_not_eq_false hnull)
    exact hd (h d)
  · intro h d
    exact holds_withoutNull h d

end Condition

/-! ## Main statement -/

/-- A tree none of whose checks compares with null is written as a document that is read as a
tree of the same meaning. -/
theorem Logic.holds_of_decode_encode (l : Logic)
    (h : ∀ c ∈ l.checks, c.comparesWithNull = false) :
    ∃ l', Logic.decode l.encode = .ok l' ∧ ∀ d, l'.holds d = l.holds d := by
  refine ⟨l.withoutNulls, Logic.decode_eq_ok_iff.mpr (Logic.read?_encode l), fun d => ?_⟩
  -- what is read lacks the null operands, which none of the checks looks at
  have hchecks : ∀ c ∈ l.checks, c.withoutNull.holds d = c.holds d := by
    intro c hc
    exact (Condition.holds_withoutNull_iff c).mpr (h c hc) d
  exact Logic.holds_withoutNulls hchecks

namespace Subscription

/-- A plan that is no trial, and either has one of some numbers of seats, null among them, or
comes without a gift; the null operand of the last check is not looked at. -/
def offered : Logic :=
  .and [
    .not (.check { field := "plan.kind", operator := .equals, value := some (.string "trial") }),
    .or [
      .check { field := "plan.seats", operator := .isIn,
               values := some [.null, .number (.int 5)] },
      .check { field := "gift", operator := .isEmpty, value := some .null }]]

/-- What is offered is read back with its meaning. -/
theorem offered_read_back : (∀ c ∈ offered.checks, c.comparesWithNull = false)
    ∧ ∃ l', Logic.decode offered.encode = .ok l' ∧ ∀ d, l'.holds d = offered.holds d := by
  have hnull : ∀ c ∈ offered.checks, c.comparesWithNull = false := by decide
  exact ⟨hnull, Logic.holds_of_decode_encode offered hnull⟩

/-- The check that a note is null. -/
def unnoted : Logic := .check { field := "note", operator := .equals, value := some .null }

/-- The check that a note is null is read back as the check that there is no note. -/
theorem unnoted_read_as_missing : ∃ l', Logic.decode unnoted.encode = .ok l'
    ∧ unnoted.holds (.object [("note", .null)]) = true
    ∧ l'.holds (.object [("note", .null)]) = false
    ∧ unnoted.holds (.object []) = false ∧ l'.holds (.object []) = true := by
  have hread : Logic.decode unnoted.encode = .ok unnoted.withoutNulls :=
    Logic.decode_eq_ok_iff.mpr (Logic.read?_encode unnoted)
  exact ⟨_, hread, by decide, by decide, by decide, by decide⟩

end Subscription
end FormLogic
