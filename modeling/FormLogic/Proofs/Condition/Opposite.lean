/-
  FormLogic.Proofs.Condition.Opposite

  Conditions and their opposites.

  Eight operators come in pairs of which one asks what the other denies:
  about equality, containment, membership and emptiness.  What is missing, or
  of a kind that the question does not arise for, counts for one of the two,
  and never for both or none.  The orderings come in such pairs too, but only
  where both sides have a number: of a value without one no ordering holds.

    * `Condition.holds_opposite_iff` — a check and its opposite divide the
      documents between them exactly where the check can be answered.
    * `Logic.holds_opposite` — the opposite of a tree exchanges `and` and `or`
      and takes the opposite of each check; it holds where the tree does not.
    * `Logic.duality` — the pairs of operators, the trees made of them, and
      the orderings.
-/

import FormLogic.Proofs.Condition.Meaning

namespace FormLogic

/-! ## Numbers in order -/

/-- Of two numbers either the first is less or the second is at most the first. -/
theorem Extended.le_eq_not_lt (x y : Extended) : x.le y = !y.lt x := by
  cases x with
  | finite a =>
    cases y with
    | finite b => simp [le, lt, Double.le, Double.lt, ← decide_not]
    | infinite negative => simp [le, lt]
  | infinite negative =>
    cases y with
    | finite b => simp [le, lt]
    | infinite negative' => simp [le, lt, Bool.or_comm]

namespace Condition

/-- Values that an ordering sees no number in: what is missing, lists, objects, and texts that are
not blank and spell no number. -/
inductive Unordered : Option Json → Prop
  | missing : Unordered none
  | list (items : List Json) : Unordered (some (.array items))
  | object (members : Dict Json) : Unordered (some (.object members))
  | text {s : String} :
      Text.trim s ≠ "" → Extended.ofText? (Text.trim s) = none → Unordered (some (.string s))

theorem toNumber?_eq_none_iff {v : Option Json} : toNumber? v = none ↔ Unordered v := by
  constructor
  · intro h
    cases v with
    | none => exact .missing
    | some v =>
      cases v with
      | array items => exact .list items
      | object members => exact .object members
      | string s =>
        rw [toNumber?, textNumber?] at h
        split at h
        · cases h
        · next hblank => exact .text hblank h
      | null | bool _ | number _ => simp [toNumber?] at h
  · intro h
    cases h with
    | missing => rfl
    | list items => rfl
    | object members => rfl
    | text hblank hnone => rw [toNumber?, textNumber?, if_neg hblank, hnone]

variable {order : Extended → Extended → Bool} {v w : Option Json}

/-- Without a number on one of its sides an ordering does not hold. -/
theorem compareNumbers_of_unordered (h : Unordered v ∨ Unordered w) :
    compareNumbers order v w = false := by
  rw [compareNumbers]
  split
  · next x y hx hy =>
    rcases h with hv | hw
    · simp [toNumber?_eq_none_iff.mpr hv] at hx
    · simp [toNumber?_eq_none_iff.mpr hw] at hy
  · rfl

/-- Between numbers an ordering is answered by them. -/
theorem exists_compareNumbers_eq (hv : ¬ Unordered v) (hw : ¬ Unordered w) :
    ∃ x y, ∀ order, compareNumbers order v w = order x y := by
  obtain ⟨x, hx⟩ := Option.ne_none_iff_exists'.mp (mt toNumber?_eq_none_iff.mp hv)
  obtain ⟨y, hy⟩ := Option.ne_none_iff_exists'.mp (mt toNumber?_eq_none_iff.mp hw)
  exact ⟨x, y, fun order => by rw [compareNumbers, hx, hy]⟩

end Condition

/-! ## Opposite checks -/

namespace Operator

/-- The operator that asks the opposite.  One that is not known asks nothing. -/
def opposite : Operator → Operator
  | equals => notEquals
  | notEquals => equals
  | greaterThan => lessThanOrEqual
  | lessThan => greaterThanOrEqual
  | greaterThanOrEqual => lessThan
  | lessThanOrEqual => greaterThan
  | contains => notContains
  | notContains => contains
  | isIn => notIn
  | notIn => isIn
  | isEmpty => isNotEmpty
  | isNotEmpty => isEmpty
  | unknown => unknown

/-- Whether an operator is about the order of two numbers. -/
def isOrdering : Operator → Bool
  | greaterThan | lessThan | greaterThanOrEqual | lessThanOrEqual => true
  | _ => false

/-- Whether an operator has an answer for all values: each but the orderings and one that is not
known. -/
def isPaired : Operator → Bool
  | greaterThan | lessThan | greaterThanOrEqual | lessThanOrEqual | unknown => false
  | _ => true

/-- Checks of one operator hold where those of the other do not, whatever they are about. -/
def Denies (o o' : Operator) : Prop :=
  ∀ (path : String) (value : Option Json) (values : Option (List Json)) (document : Json),
    Condition.holds ⟨path, o, value, values⟩ document
      = !Condition.holds ⟨path, o', value, values⟩ document

end Operator

namespace Condition

/-- The check that asks the opposite of the same value and operand. -/
def opposite (c : Condition) : Condition := { c with operator := c.operator.opposite }

/-- A check can be answered: it is no ordering, or finds a number on both of its sides. -/
def CanBeAnswered (c : Condition) (document : Json) : Prop :=
  c.operator.isPaired = true
    ∨ c.operator.isOrdering = true
      ∧ ¬ Unordered (Path.resolve document c.field) ∧ ¬ Unordered c.value

variable {document : Json} {path : String} {value : Option Json} {values : Option (List Json)}

/-- Taking the answer for no and taking its denial for yes are opposites, also where there is no
answer. -/
theorem getD_map_not (answer : Option Bool) :
    (answer.map not).getD true = !answer.getD false := by
  cases answer <;> rfl

/-- An operator with an answer for all values is denied by its opposite. -/
theorem denies_opposite {o : Operator} (h : o.isPaired = true) : o.opposite.Denies o := by
  intro path value values document
  cases o
  case contains | isIn => exact getD_map_not _
  case notContains | notIn => simp only [holds, Operator.opposite, getD_map_not, Bool.not_not]
  case equals | isEmpty => rfl
  case notEquals | isNotEmpty => simp only [holds, Operator.opposite, Bool.not_not]
  all_goals simp [Operator.isPaired] at h

/-- Between numbers the opposite of an ordering denies it. -/
theorem holds_opposite_of_ordered {o : Operator} (ho : o.isOrdering = true)
    (hfound : ¬ Unordered (Path.resolve document path)) (hvalue : ¬ Unordered value) :
    holds ⟨path, o.opposite, value, values⟩ document
      = !holds ⟨path, o, value, values⟩ document := by
  obtain ⟨x, y, hxy⟩ := exists_compareNumbers_eq hfound hvalue
  cases o
  case greaterThan | lessThan =>
    simp only [holds, Operator.opposite, hxy, Extended.le_eq_not_lt]
  case greaterThanOrEqual | lessThanOrEqual =>
    simp only [holds, Operator.opposite, hxy, Extended.le_eq_not_lt, Bool.not_not]
  all_goals simp [Operator.isOrdering] at ho

/-- Without a number on one of its sides no ordering holds. -/
theorem holds_of_unordered {o : Operator} (ho : o.isOrdering = true)
    (h : Unordered (Path.resolve document path) ∨ Unordered value) :
    holds ⟨path, o, value, values⟩ document = false := by
  cases o
  case greaterThan | lessThan | greaterThanOrEqual | lessThanOrEqual =>
    exact compareNumbers_of_unordered h
  all_goals simp [Operator.isOrdering] at ho

/-- The opposite of an ordering is one. -/
theorem isOrdering_opposite (o : Operator) : o.opposite.isOrdering = o.isOrdering := by
  cases o <;> rfl

/-- A check and its opposite divide the documents between them exactly where the check can be
answered. -/
theorem holds_opposite_iff (c : Condition) (document : Json) :
    c.opposite.holds document = (!c.holds document) ↔ c.CanBeAnswered document := by
  obtain ⟨path, o, value, values⟩ := c
  constructor
  · intro h
    by_cases hpaired : o.isPaired = true
    · exact Or.inl hpaired
    -- what is left are the orderings, both of which fail without numbers, and the unknown operator
    · by_cases ho : o.isOrdering = true
      · refine Or.inr ⟨ho, ?_⟩
        by_contra hnot
        have hun : Unordered (Path.resolve document path) ∨ Unordered value :=
          or_iff_not_and_not.mpr hnot
        have hcheck : holds ⟨path, o, value, values⟩ document = false :=
          holds_of_unordered ho hun
        have hopposite : holds ⟨path, o.opposite, value, values⟩ document = false :=
          holds_of_unordered ((isOrdering_opposite o).trans ho) hun
        rw [opposite, hopposite, hcheck] at h
        cases h
      · cases o
        case unknown => cases h
        all_goals simp [Operator.isPaired, Operator.isOrdering] at hpaired ho
  · rintro (hpaired | ⟨ho, hfound, hvalue⟩)
    · exact denies_opposite hpaired path value values document
    · exact holds_opposite_of_ordered ho hfound hvalue

end Condition

/-! ## Opposite trees -/

namespace Logic

mutual

/-- The tree with `and` and `or` exchanged and each check replaced by its opposite. -/
def opposite : Logic → Logic
  | .check c => .check c.opposite
  | .and parts => .or (oppositeAll parts)
  | .or parts => .and (oppositeAll parts)
  | .not part => .not (opposite part)

/-- The opposites of a list of trees. -/
def oppositeAll : List Logic → List Logic
  | [] => []
  | p :: ps => opposite p :: oppositeAll ps

end

theorem oppositeAll_eq_map (parts : List Logic) : oppositeAll parts = parts.map opposite := by
  induction parts with
  | nil => rfl
  | cons p ps ih => rw [oppositeAll, ih, List.map_cons]

/-- The opposite of a tree holds of a document where the tree does not, if each of its checks can
be answered there. -/
theorem holds_opposite {l : Logic} {d : Json} (h : ∀ c ∈ l.checks, c.CanBeAnswered d) :
    l.opposite.holds d = !l.holds d := by
  refine checksInduction (P := fun l => l.opposite.holds d = !l.holds d)
    (fun c hc => (c.holds_opposite_iff d).mpr hc) ?_ ?_ ?_ h
  · -- one of the opposites holds where not all of the parts do
    intro parts hparts
    rw [opposite, holds, holds, anyHolds_eq_any, allHold_eq_all, oppositeAll_eq_map, List.any_map,
      List.not_all_eq_any_not]
    exact any_congr_of_mem hparts
  · -- all of the opposites hold where none of the parts does
    intro parts hparts
    rw [opposite, holds, holds, allHold_eq_all, anyHolds_eq_any, oppositeAll_eq_map, List.all_map,
      List.not_any_eq_all_not]
    exact all_congr_of_mem hparts
  · intro part hpart
    rw [opposite, holds, holds, hpart]

/-! ## Main statement -/

/-- The questions about equality, containment, membership and emptiness come in pairs that deny
each other for all values, missing ones included; so a tree of such checks is denied by its
opposite on every document.  The orderings deny each other in pairs between numbers, and none of
them holds where a number is lacking. -/
theorem duality :
    (Operator.notEquals.Denies .equals ∧ Operator.notContains.Denies .contains
      ∧ Operator.notIn.Denies .isIn ∧ Operator.isNotEmpty.Denies .isEmpty)
    ∧ (∀ l : Logic, (∀ c ∈ l.checks, c.operator.isPaired = true) →
        ∀ d, l.opposite.holds d = !l.holds d)
    ∧ ∀ (path : String) (value : Option Json) (values : Option (List Json)) (d : Json),
      (¬ Condition.Unordered (Path.resolve d path) → ¬ Condition.Unordered value →
        Condition.holds ⟨path, .lessThan, value, values⟩ d
            = !Condition.holds ⟨path, .greaterThanOrEqual, value, values⟩ d
          ∧ Condition.holds ⟨path, .greaterThan, value, values⟩ d
            = !Condition.holds ⟨path, .lessThanOrEqual, value, values⟩ d)
      ∧ (Condition.Unordered (Path.resolve d path) ∨ Condition.Unordered value →
        ∀ o : Operator, o.isOrdering = true →
          Condition.holds ⟨path, o, value, values⟩ d = false) := by
  refine ⟨⟨?_, ?_, ?_, ?_⟩, ?_, ?_⟩
  · exact Condition.denies_opposite (o := .equals) rfl
  · exact Condition.denies_opposite (o := .contains) rfl
  · exact Condition.denies_opposite (o := .isIn) rfl
  · exact Condition.denies_opposite (o := .isEmpty) rfl
  · intro l hpaired d
    exact holds_opposite fun c hc => Or.inl (hpaired c hc)
  · intro path value values d
    refine ⟨fun hfound hvalue => ⟨?_, ?_⟩, fun hun o ho => ?_⟩
    · exact Condition.holds_opposite_of_ordered (o := .greaterThanOrEqual) rfl hfound hvalue
    · exact Condition.holds_opposite_of_ordered (o := .lessThanOrEqual) rfl hfound hvalue
    · exact Condition.holds_of_unordered ho hun

end Logic

namespace Lending

/-- A book that stands on an open shelf or is not marked as lost, and that nobody waits for. -/
def lendable : Logic :=
  .and [
    .not (.or []),
    .or [
      .check { field := "shelf", operator := .isIn,
               values := some [.string "A", .string "B"] },
      .check { field := "marks", operator := .notContains, value := some (.string "lost") }],
    .check { field := "waiting", operator := .isEmpty }]

/-- A book with its copies counted by a text, and not due at any time. -/
def book : Json := .object [("copies", .string " 3 "), ("marks", .array [.string "lost"])]

/-- The opposite of what can be lent is what cannot; there are not both fewer than two copies and
at least two; and no time compares with the missing one. -/
theorem lent_or_not :
    (∀ c ∈ lendable.checks, c.operator.isPaired = true)
    ∧ (∀ d, lendable.opposite.holds d = !lendable.holds d)
    ∧ ¬ Condition.Unordered (Path.resolve book "copies")
    ∧ ¬ Condition.Unordered (some (.number (.int 2)))
    ∧ Condition.holds ⟨"copies", .lessThan, some (.number (.int 2)), none⟩ book
      = !Condition.holds ⟨"copies", .greaterThanOrEqual, some (.number (.int 2)), none⟩ book
    ∧ Condition.Unordered (Path.resolve book "due")
    ∧ Condition.holds ⟨"due", .lessThanOrEqual, some (.number (.int 2)), none⟩ book = false := by
  have hpaired : ∀ c ∈ lendable.checks, c.operator.isPaired = true := by decide
  have hcopies : ¬ Condition.Unordered (Path.resolve book "copies") := by
    rw [← Condition.toNumber?_eq_none_iff]
    decide +kernel
  have htwo : ¬ Condition.Unordered (some (.number (.int 2))) := by
    rw [← Condition.toNumber?_eq_none_iff]
    decide +kernel
  have hdue : Condition.Unordered (Path.resolve book "due") := .missing
  obtain ⟨-, htrees, horders⟩ := Logic.duality
  exact ⟨hpaired, htrees lendable hpaired, hcopies, htwo, ((horders _ _ _ book).1 hcopies htwo).1,
    hdue, (horders _ _ _ book).2 (Or.inl hdue) _ rfl⟩

end Lending
end FormLogic
