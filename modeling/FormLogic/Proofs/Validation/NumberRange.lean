/-
  FormLogic.Proofs.Validation.NumberRange

  The rules of a field for numbers as conditions on its value.

  A validator reads a number off a value by `Json.number?`, an ordering
  condition by `Condition.toNumber?`.  The second one knows more numbers than
  the first: null and blank text count as zero, flags as zero and one, and a
  text can name an infinity.  But a number that the first one finds the
  second one finds as well, and the same (`Condition.toNumber?_of_denotes`).
  So a value that is a number is within the bounds of a field exactly if the
  two conditions that say so hold.

    * `Json.number?_eq_some_iff` — what is a number to a validator.
    * `Condition.holds_ordering_iff` — an ordering condition on a number.
    * `FieldValidator.number_accepted_iff` — what a field for numbers accepts.
-/

import FormLogic.Proofs.Validation.Fillable
import FormLogic.Condition.Basic

namespace FormLogic

/-! ## Values that are numbers -/

/-- The number that a value stands for: a number stands for itself, and a text for the finite number
that it spells between blanks. -/
inductive Json.Denotes : Json → Double → Prop
  | number (n : Number) : Denotes (.number n) n.toDouble
  | text {s : String} {d : Double} :
      Extended.ofText? (Text.trim s) = some (.finite d) → Denotes (.string s) d

namespace Json

variable {v : Json} {d : Double}

/-- A validator takes for a number what stands for one. -/
theorem number?_eq_some_iff : v.number? = some d ↔ v.Denotes d := by
  constructor
  · intro h
    cases v with
    | number n =>
      obtain rfl := Option.some.inj h
      exact .number n
    | string s =>
      rw [number?] at h
      split at h
      · next d' hread =>
        obtain rfl := Option.some.inj h
        exact .text hread
      · cases h
    | null | bool _ | array _ | object _ => cases h
  · intro h
    cases h with
    | number n => rfl
    | text hread => rw [number?, hread]

/-- What stands for a number does not count as missing, nor is it passed over. -/
theorem Denotes.not_vacant (h : v.Denotes d) : ¬ Vacant (some v) := by
  intro hv
  cases hv with
  | null | emptyText | emptyList => cases number?_eq_some_iff.mpr h

end Json

namespace Condition

variable {value : Json} {d : Double}

/-- Blank text spells no number. -/
theorem trim_ne_empty {s : String} (h : Extended.ofText? (Text.trim s) = some (.finite d)) :
    Text.trim s ≠ "" := by
  intro hblank
  rw [hblank] at h
  cases h

/-- Where a validator finds a number an ordering finds the same one. -/
theorem toNumber?_of_denotes (h : value.Denotes d) :
    toNumber? (some value) = some (.finite d) := by
  cases h with
  | number n => rfl
  | text hread => rw [toNumber?, textNumber?, if_neg (trim_ne_empty hread), hread]

/-- A document with one member has its value at the name. -/
theorem resolve_single {name : String} (hname : name ≠ "") :
    Path.resolve (.object [(name, value)]) name = some value := by
  simp [Path.resolve, hname, Json.members?, Dict.get?]

/-- The condition that the value of a field stands in an order to a bound. -/
def ordering (name : String) (operator : Operator) (bound : Number) : Condition where
  field := name
  operator := operator
  value := some (.number bound)

/-- A number meets the conditions on the bounds of a range exactly if it lies between them. -/
theorem holds_ordering_iff {name : String} (hname : name ≠ "") (h : value.Denotes d)
    (bound : Number) :
    ((ordering name .greaterThanOrEqual bound).holds (.object [(name, value)]) = true ↔
        bound.toDouble.value ≤ d.value)
      ∧ ((ordering name .lessThanOrEqual bound).holds (.object [(name, value)]) = true ↔
        d.value ≤ bound.toDouble.value) := by
  have hvalue : Path.resolve (.object [(name, value)]) name = some value := resolve_single hname
  have hnumber : toNumber? (some value) = some (.finite d) := toNumber?_of_denotes h
  have hbound : toNumber? (some (.number bound)) = some (.finite bound.toDouble) := rfl
  simp [holds, ordering, hvalue, compareNumbers, hnumber, hbound, Extended.le, Double.le]

end Condition

/-! ## Main statement -/

namespace FieldValidator

variable [PatternReader] {overrides : MessageOverrides} {info : FieldInfo} {v : FieldValidator}

/-- A validator of a field for numbers, without a custom check, accepts a value that is not passed
over exactly if it is a number or a text that spells a finite one, and the conditions hold that it
is not below the lower bound and not above the upper one, however these are written.  Wherever it
finds a number in a value, so does an ordering condition, and the same one. -/
theorem number_accepted_iff (hkind : info.kind = .number) (hname : info.name ≠ "")
    (hcheck : ∀ check, ¬ info.HasCheck check) (hv : compile overrides info = .ok v)
    {value : Json} (hgiven : ¬ PassedOver value) (values : Json) :
    (v.validate (some value) values = none ↔
      (∃ d, value.Denotes d)
      ∧ (∀ low : Number, info.ruleSet.min = some low.toDouble →
        (Condition.ordering info.name .greaterThanOrEqual low).holds
          (.object [(info.name, value)]) = true)
      ∧ ∀ high : Number, info.ruleSet.max = some high.toDouble →
        (Condition.ordering info.name .lessThanOrEqual high).holds
          (.object [(info.name, value)]) = true)
    ∧ ∀ d, value.number? = some d → Condition.toNumber? (some value) = some (.finite d) := by
  refine ⟨?_, fun d hd => Condition.toNumber?_of_denotes (Json.number?_eq_some_iff.mp hd)⟩
  rw [validate_eq_none_iff hv]
  constructor
  · intro hacc
    obtain ⟨d, hd, hlow, hhigh⟩ :=
      (FieldInfo.obeys_number_iff hkind).mp (hacc.obeyed value rfl hgiven)
    have hdenotes : value.Denotes d := Json.number?_eq_some_iff.mp hd
    refine ⟨⟨d, hdenotes⟩, fun low hmin => ?_, fun high hmax => ?_⟩
    · exact (Condition.holds_ordering_iff hname hdenotes low).1.mpr (hlow _ hmin)
    · exact (Condition.holds_ordering_iff hname hdenotes high).2.mpr (hhigh _ hmax)
  · rintro ⟨⟨d, hdenotes⟩, hlow, hhigh⟩
    refine ⟨fun hmissing => hdenotes.not_vacant hmissing.1, ?_,
      fun check hc => absurd hc (hcheck check)⟩
    rintro w ⟨⟩ -
    refine (FieldInfo.obeys_number_iff hkind).mpr
      ⟨d, Json.number?_eq_some_iff.mpr hdenotes, fun low hmin => ?_, fun high hmax => ?_⟩
    · exact (Condition.holds_ordering_iff hname hdenotes (.double low)).1.mp (hlow _ hmin)
    · exact (Condition.holds_ordering_iff hname hdenotes (.double high)).2.mp (hhigh _ hmax)

end FieldValidator

namespace Thermostat

/-- A temperature from 5 to 30 that must be given. -/
def temperature : FieldInfo where
  name := "room.temperature"
  kind := .number
  required := true
  rules := some { min := some (Double.ofInt 5), max := some (Double.ofInt 30) }

/-- A temperature may be written between blanks and with an exponent.  A text that overflows is not
below the lower bound to a condition, but no number to the validator. -/
theorem temperatures_by_conditions : temperature.kind = .number ∧ temperature.name ≠ ""
    ∧ (∀ check, ¬ temperature.HasCheck check) ∧ ¬ PassedOver (.string " +2.15e1\t")
    ∧ ∃ v, FieldValidator.compile [] temperature = .ok v
      ∧ v.validate (some (.string " +2.15e1\t")) .null = none
      ∧ v.validate (some (.string "1e999")) .null ≠ none
      ∧ (Condition.ordering "room.temperature" .greaterThanOrEqual (.int 5)).holds
          (.object [("room.temperature", .string "1e999")]) = true := by
  have hcompile : (FieldValidator.compile [] temperature).map (·.name)
      = .ok "room.temperature" := by decide +kernel
  obtain ⟨v, hv, -⟩ := Except.map_eq_ok.mp hcompile
  have hcheck : ∀ check, ¬ temperature.HasCheck check := fun _ ⟨_, hrule, _⟩ => nomatch hrule
  have hgiven : ∀ s, s ≠ "" → ¬ PassedOver (.string s) := by
    rintro s hs (h | h)
    · cases h
    · exact hs (Json.string.inj h)
  have hread : (Json.number? (.string " +2.15e1\t")).any (fun d =>
      decide ((Double.ofInt 5).value ≤ d.value ∧ d.value ≤ (Double.ofInt 30).value)) = true := by
    decide +kernel
  obtain ⟨d, hd, hrange⟩ := (Option.any_eq_true _ _).mp hread
  obtain ⟨hlow, hhigh⟩ := of_decide_eq_true hrange
  have hdenotes : Json.Denotes (.string " +2.15e1\t") d := Json.number?_eq_some_iff.mp hd
  refine ⟨rfl, by decide, hcheck, hgiven _ (by decide), v, hv, ?_, ?_, by decide +kernel⟩
  · refine (FieldValidator.number_accepted_iff rfl (by decide) hcheck hv
      (hgiven _ (by decide)) .null).1.mpr ⟨⟨d, hdenotes⟩, fun low hmin => ?_, fun high hmax => ?_⟩
    · refine (Condition.holds_ordering_iff (by decide) hdenotes low).1.mpr ?_
      exact Option.some.inj hmin ▸ hlow
    · refine (Condition.holds_ordering_iff (by decide) hdenotes high).2.mpr ?_
      exact Option.some.inj hmax ▸ hhigh
  · intro hnone
    obtain ⟨⟨d, hd⟩, -⟩ := (FieldValidator.number_accepted_iff rfl (by decide) hcheck hv
      (hgiven _ (by decide)) .null).1.mp hnone
    have hnumber : Json.number? (.string "1e999") = none := by decide +kernel
    rw [Json.number?_eq_some_iff.mpr hd] at hnumber
    cases hnumber

end Thermostat
end FormLogic
