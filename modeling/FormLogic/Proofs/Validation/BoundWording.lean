/-
  FormLogic.Proofs.Validation.BoundWording

  The bound that a message names is the bound that is enforced.

  A check holds values against the bound of the rule itself.  Its message is
  given the bound as a floating-point number, which goes to the template as
  an integer only if it has no fraction and is not too large.  Below
  `plainLimit`, and so below `2 ^ 53`, an integer comes through this unchanged
  (`Message.countBound_eq`, `Message.bound_eq`), and the default templates put
  it between texts (`RuleKey.defaultPieces`).

    * `FieldInfo.Limits.breaks_iff` — what breaks a rule with an integer bound.
    * `FieldInfo.Limits.ruleMessage_eq` — the message that it has by default.
    * `FieldValidator.bound_named` — the same of a compiled validator.
-/

import FormLogic.Proofs.Double.Rounding
import FormLogic.Proofs.Message.Placeholders
import FormLogic.Proofs.Validation.Wording

namespace FormLogic

/-! ## Integers as parameters of messages -/

/-- A number whose value is that of an integer is the integer. -/
theorem Double.toInt?_of_value {d : Double} {n : Int} (h : d.value = n * unitsInOne) :
    d.toInt? = some n := by
  have hone : (0 : Int) < unitsInOne := Int.natCast_pos.mpr unitsInOne_pos
  have hunits : d.units = n.natAbs * unitsInOne := by
    have habs : d.value.natAbs = d.units := by
      rw [value]
      split <;> omega
    rw [← habs, h, Int.natAbs_mul, Int.natAbs_natCast]
  -- the sign of the number is that of the integer, or the integer is zero and has both
  have hsign : (if d.negative then -(n.natAbs : Int) else n.natAbs) = n := by
    refine Int.eq_of_mul_eq_mul_right hone.ne' ?_
    rw [← h, value, hunits, Int.natCast_mul]
    split
    · exact Int.neg_mul _ _
    · rfl
  have hmod : d.units % unitsInOne = 0 := by rw [hunits, Nat.mul_mod_left]
  have hdiv : d.units / unitsInOne = n.natAbs := by
    rw [hunits, Nat.mul_div_cancel _ unitsInOne_pos]
  simp only [toInt?, hmod, if_true, hdiv, hsign]

namespace Message

variable {name : String}

/-- A bound that is an integer of moderate size is given to a template as this integer. -/
theorem bound_eq {d : Double} {n : Int} (h : d.value = n * unitsInOne)
    (hn : n.natAbs < plainLimit) : bound name d = [(name, .number (.int n))] := by
  simp only [bound, boundParam, Double.toInt?_of_value h, hn, if_true]

/-- So is a count, as all integers below the limit are floating-point numbers. -/
theorem countBound_eq {n : Nat} (hn : n < plainLimit) :
    countBound name n = [(name, .number (.int n))] := by
  have hlimit : plainLimit = 9000000000000000 := rfl
  have h53 : twoPow 53 = 9007199254740992 := rfl
  refine bound_eq (Double.value_ofInt_of_fits ?_ ?_) hn
  · exact Number.inRange_iff.mpr (by omega)
  · exact fits_of_le (by omega)

end Message

/-! ## The default templates -/

/-- The default template of a rule in pieces. -/
def RuleKey.defaultPieces : RuleKey → List Message.Piece
  | .minLength => [.literal "Must be at least ", .placeholder .min, .literal " characters"]
  | .maxLength => [.literal "Must be at most ", .placeholder .max, .literal " characters"]
  | .min => [.literal "Must be at least ", .placeholder .min]
  | .max => [.literal "Must be at most ", .placeholder .max]
  | .minItems => [.literal "Must have at least ", .placeholder .min, .literal " items"]
  | .maxItems => [.literal "Must have at most ", .placeholder .max, .literal " items"]
  | key => [.literal key.defaultTemplate]

namespace Message

variable {overrides : MessageOverrides} {key : RuleKey} {field : FieldInfo} {params : Dict Json}

/-- The pieces make up the template. -/
theorem join_defaultPieces (key : RuleKey) :
    String.join (key.defaultPieces.map Piece.source) = key.defaultTemplate := by
  cases key <;> decide

theorem isPlain_defaultPieces : ∀ p ∈ key.defaultPieces, p.IsPlain := by
  cases key <;> decide

/-- Where no other template is given, a message is that of the pieces of the default. -/
theorem resolve_default (hfield : Dict.get? field.messages key.name = none)
    (hform : Dict.get? overrides key.name = none) :
    resolve overrides key field params
      = String.join (key.defaultPieces.map (Piece.shown field params)) := by
  have htemplate : template overrides key field = key.defaultTemplate :=
    (selects_iff.mp (.default hfield hform)).symm
  rw [resolve, htemplate, ← join_defaultPieces, renderOrVerbatim_pieces isPlain_defaultPieces]

end Message

/-! ## Rules with an integer bound -/

/-- A value lies beyond the bound of a rule: a text or list by its size, a number or the text of one
by its value. -/
def RuleKey.Beyond (n : Int) (v : Json) : RuleKey → Prop
  | .minLength => ∃ s, v = .string s ∧ (s.length : Int) < n
  | .maxLength => ∃ s, v = .string s ∧ n < (s.length : Int)
  | .min => ∃ d, v.number? = some d ∧ d.value < n * unitsInOne
  | .max => ∃ d, v.number? = some d ∧ n * unitsInOne < d.value
  | .minItems => ∃ items, v = .array items ∧ (items.length : Int) < n
  | .maxItems => ∃ items, v = .array items ∧ n < (items.length : Int)
  | _ => False

/-- The default message of a rule, with its bound in decimal digits. -/
def RuleKey.defaultMessage (n : Int) : RuleKey → String
  | .minLength => "Must be at least " ++ toString n ++ " characters"
  | .maxLength => "Must be at most " ++ toString n ++ " characters"
  | .min => "Must be at least " ++ toString n
  | .max => "Must be at most " ++ toString n
  | .minItems => "Must have at least " ++ toString n ++ " items"
  | .maxItems => "Must have at most " ++ toString n ++ " items"
  | key => key.defaultTemplate

namespace FieldInfo

/-- A rule of the field's kind has an integer as its bound. -/
inductive Limits (info : FieldInfo) : RuleKey → Int → Prop
  | minLength {n : Nat} :
      info.kind.isTextual = true → info.ruleSet.minLength = some n → Limits info .minLength n
  | maxLength {n : Nat} :
      info.kind.isTextual = true → info.ruleSet.maxLength = some n → Limits info .maxLength n
  | min {d : Double} {n : Int} :
      info.kind = .number → info.ruleSet.min = some d → d.value = n * unitsInOne →
      Limits info .min n
  | max {d : Double} {n : Int} :
      info.kind = .number → info.ruleSet.max = some d → d.value = n * unitsInOne →
      Limits info .max n
  | minItems {n : Nat} :
      info.kind = .array → info.ruleSet.minItems = some n → Limits info .minItems n
  | maxItems {n : Nat} :
      info.kind = .array → info.ruleSet.maxItems = some n → Limits info .maxItems n

variable {overrides : MessageOverrides} {info : FieldInfo} {key : RuleKey} {n : Int} {v : Json}

/-- The rule is broken by what lies beyond the integer. -/
theorem Limits.breaks_iff [PatternReader] (h : info.Limits key n) :
    info.Breaks v key ↔ key.Beyond n v := by
  cases h with
  | minLength _ hbound | maxLength _ hbound | minItems _ hbound | maxItems _ hbound =>
    simp only [Breaks, RuleKey.Beyond, hbound, Option.some.injEq, exists_eq_left', Int.ofNat_lt]
  | min _ hbound hvalue | max _ hbound hvalue =>
    simp only [Breaks, RuleKey.Beyond, hbound, hvalue, Option.some.injEq, exists_eq_left']

/-- By default its message names the integer. -/
theorem Limits.ruleMessage_eq (h : info.Limits key n) (hn : n.natAbs < Message.plainLimit)
    (hfield : Dict.get? info.messages key.name = none)
    (hform : Dict.get? overrides key.name = none) :
    info.ruleMessage overrides key = key.defaultMessage n := by
  rw [ruleMessage, Message.resolve_default hfield hform]
  cases h with
  | minLength _ hbound | maxLength _ hbound | minItems _ hbound | maxItems _ hbound =>
    rw [Int.natAbs_natCast] at hn
    simp only [ruleParams, hbound, Option.map_some, Option.getD_some, Message.countBound_eq hn]
    rfl
  | min _ hbound hvalue | max _ hbound hvalue =>
    simp only [ruleParams, hbound, Option.map_some, Option.getD_some, Message.bound_eq hvalue hn]
    rfl

end FieldInfo

/-! ## Main statement -/

/-- Where a field has an integer of moderate size as a bound, and no template is given for the rule,
neither by the field nor by the form, the values that break the rule are those beyond the integer;
and a value for which this is the first rule to fail is reported with the default message, which has
the integer in decimal digits. -/
theorem FieldValidator.bound_named [PatternReader] {overrides : MessageOverrides}
    {info : FieldInfo} {v : FieldValidator} {key : RuleKey} {n : Int}
    (hv : compile overrides info = .ok v) (h : info.Limits key n) (hn : n.natAbs < 9000000000000000)
    (hfield : Dict.get? info.messages key.name = none)
    (hform : Dict.get? overrides key.name = none) :
    (∀ value, info.Breaks value key ↔ key.Beyond n value)
    ∧ ∀ value values, info.Fails (some value) values key →
      v.validate (some value) values = some (key.defaultMessage n) := by
  refine ⟨fun value => h.breaks_iff, fun value values hfails => ?_⟩
  have hlimit : (n.natAbs : Int) < Message.plainLimit := Int.ofNat_lt.mpr hn
  have hreports : info.Reports overrides (some value) values (info.ruleMessage overrides key) :=
    FieldInfo.reports_iff.mpr (Or.inr ⟨key, hfails, rfl⟩)
  rw [(validate_eq_some_iff hv).mpr hreports, h.ruleMessage_eq hlimit hfield hform]

namespace Wallet

/-- A balance with a large overdraft. -/
def balance : FieldInfo where
  name := "balance"
  kind := .number
  rules := some { min := some (Double.ofInt (-8999999999999999)) }

/-- A list of two entries or less. -/
def entries : FieldInfo where
  name := "entries"
  kind := .array
  rules := some { maxItems := some 2 }

theorem limits_balance : balance.Limits .min (-8999999999999999) :=
  .min rfl rfl (by decide +kernel)

theorem limits_entries : entries.Limits .maxItems 2 := .maxItems rfl rfl

/-- A lower balance and a longer list are reported with the bounds in full. -/
theorem bounds_in_digits : balance.Limits .min (-8999999999999999) ∧ entries.Limits .maxItems 2
    ∧ (∃ v, FieldValidator.compile [] balance = .ok v
      ∧ v.validate (some (.number (.int (-9000000000000000)))) .null
        = some "Must be at least -8999999999999999")
    ∧ ∃ v, FieldValidator.compile [] entries = .ok v
      ∧ v.validate (some (.array [.null, .null, .null])) .null
        = some "Must have at most 2 items" := by
  obtain ⟨v, hv⟩ : ∃ v, FieldValidator.compile [] balance = .ok v := ⟨_, rfl⟩
  obtain ⟨w, hw⟩ : ∃ w, FieldValidator.compile [] entries = .ok w := ⟨_, rfl⟩
  obtain ⟨hlow, hbalance⟩ :=
    FieldValidator.bound_named hv limits_balance (by decide) (by decide) rfl
  obtain ⟨hlong, hentries⟩ :=
    FieldValidator.bound_named hw limits_entries (by decide) (by decide) rfl
  refine ⟨limits_balance, limits_entries, ⟨v, hv, hbalance _ _ ?_⟩, w, hw, hentries _ _ ?_⟩
  · have hbroken : balance.FirstBroken (.number (.int (-9000000000000000))) .min := by
      refine ⟨[.number], [.max], rfl, (hlow _).mpr ⟨_, rfl, by decide +kernel⟩, ?_⟩
      simp [FieldInfo.Breaks, Json.number?]
    refine .broken ?_ rfl (by simp [PassedOver]) hbroken
    rintro ⟨hvacant, -⟩
    cases hvacant
  · have hbroken : entries.FirstBroken (.array [.null, .null, .null]) .maxItems := by
      refine ⟨[.array, .minItems], [], rfl, (hlong _).mpr ⟨_, rfl, by decide⟩, ?_⟩
      simp [FieldInfo.Breaks, FieldInfo.ruleSet, entries]
    refine .broken ?_ rfl (by simp [PassedOver]) hbroken
    rintro ⟨hvacant, -⟩
    cases hvacant

end Wallet
end FormLogic
