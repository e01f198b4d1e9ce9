/-
  FormLogic.Proofs.Validation.Acceptance

  What a field accepts, and that looser rules accept no less.

  A validator reports one message or none.  That it reports none is taken
  apart here into what the description of the field asks for: a value where
  one is demanded, no broken rule, and a custom check that finds it valid.
  None of these looks at messages, so that two fields can be compared by
  their rules alone.  The invariant of loosening is that what is broken, in
  conflict or demanded by the looser rules is so by the stricter ones.

    * `FieldValidator.validate_eq_none_iff` — a compiled validator reports
      nothing exactly where the description accepts the value.
    * `FieldValidator.exists_compile_iff` — which fields compile.
    * `FieldInfo.LoosenedTo.accepts` — what is accepted under strict rules is
      accepted under looser ones.
    * `FieldValidator.accepts_of_loosened` — the same of compiled validators.
-/

import FormLogic.Pattern.Parser
import FormLogic.Proofs.Validation.Defects
import FormLogic.Proofs.Validation.Rules

namespace FormLogic

/-! ## What is accepted -/

section Reader

variable {overrides : MessageOverrides} {info : FieldInfo} {v : FieldValidator}

/-- A custom step has nothing to report where its check finds the value valid. -/
theorem FieldValidator.customMessage?_eq_none_iff {step : CustomStep} {value values : Json} :
    customMessage? step value values = none ↔ step.check.run value values = .ok .valid := by
  rw [customMessage?]
  cases step.check.run value values with
  | error e => simp
  | ok verdict => cases verdict <;> simp

/-- The custom step of a field has nothing to report where the check of the description, if one is
attached, finds the value valid. -/
theorem FieldValidator.custom_bind_eq_none_iff {value values : Json} :
    (customStep overrides info).bind (fun step => customMessage? step value values) = none ↔
      ∀ check, info.HasCheck check → check.run value values = .ok .valid := by
  have hcheck : ∀ check, info.HasCheck check ↔ info.custom.bind (·.check) = some check :=
    fun check => Option.bind_eq_some_iff.symm
  simp only [hcheck, customStep]
  cases info.custom.bind (·.check) with
  | none => simp
  | some c => simp [customMessage?_eq_none_iff]

variable [PatternReader]

/-- A field accepts a value within the values of a form: a value is there if one is demanded, it
breaks no rule, and an attached check finds it valid. -/
structure FieldInfo.Accepts (info : FieldInfo) (value : Option Json) (values : Json) : Prop where
  given : ¬ (Vacant value ∧ info.Demanded values)
  obeyed : info.Obeyed value
  passed : ∀ check, info.HasCheck check → check.run (value.getD .null) values = .ok .valid

namespace FieldValidator

/-- A compiled validator reports nothing exactly where the description accepts the value. -/
theorem validate_eq_none_iff (h : compile overrides info = .ok v) {value : Option Json}
    {values : Json} : v.validate value values = none ↔ info.Accepts value values := by
  by_cases hd : Vacant value ∧ info.Demanded values
  -- a missing value that is demanded is reported before all else, and is not accepted
  · rw [validate_of_demanded h hd]
    exact iff_of_false (Option.some_ne_none _) fun hacc => hacc.given hd
  · rw [validate_of_not_demanded h hd, Option.or_eq_none_iff, checkMessage?_eq_none_iff h,
      ← obeyed_iff, custom_bind_eq_none_iff]
    exact ⟨fun ⟨hobeyed, hpassed⟩ => ⟨hd, hobeyed, hpassed⟩,
      fun hacc => ⟨hacc.obeyed, hacc.passed⟩⟩

/-- A field compiles where no bounds are in conflict and no pattern is refused. -/
theorem exists_compile_iff : (∃ v, compile overrides info = .ok v) ↔
    (∀ pair, ¬ info.Conflict pair)
      ∧ (∀ reason, ¬ info.HasBadPattern reason) ∧ ∀ reason, ¬ info.HasBadAddress reason := by
  rw [Except.exists_ok_iff, ← not_refuses_iff]
  exact forall_congr' fun d => not_congr compile_eq_error_iff

end FieldValidator

end Reader

/-! ## Looser rules -/

/-- What is left of a rule was there before, and is no stronger than it was; nothing need be
left. -/
def Rules.Eased {α : Type} (weaker : α → α → Prop) (old new : Option α) : Prop :=
  ∀ x, new = some x → ∃ y, old = some y ∧ weaker x y

/-- What holds of a rule that is left holds of the one that was there, if it does so of all
stronger ones. -/
theorem Rules.Eased.exists_old {α : Type} {weaker : α → α → Prop} {old new : Option α}
    (h : Eased weaker old new) {P : α → Prop} (hP : ∀ x y, weaker x y → P x → P y)
    (hnew : ∃ x, new = some x ∧ P x) : ∃ y, old = some y ∧ P y := by
  obtain ⟨x, hx, hPx⟩ := hnew
  obtain ⟨y, hy, hweaker⟩ := h x hx
  exact ⟨y, hy, hP x y hweaker hPx⟩

theorem Rules.eased_none {α : Type} {weaker : α → α → Prop} {old : Option α} :
    Eased weaker old none := nofun

theorem Rules.eased_some {α : Type} {weaker : α → α → Prop} {x y : α} (h : weaker x y) :
    Eased weaker (some y) (some x) := by
  intro x' hx'
  obtain rfl := Option.some.inj hx'
  exact ⟨y, rfl, h⟩

/-- Rules of which some are weakened: requirements and formats taken away, lower bounds lowered or
taken away, upper bounds raised or taken away.  The custom rule stays. -/
structure Rules.LoosenedTo (r r' : Rules) : Prop where
  required : Eased (· = ·) r.required r'.required
  minLength : Eased (· ≤ ·) r.minLength r'.minLength
  maxLength : Eased (· ≥ ·) r.maxLength r'.maxLength
  pattern : Eased (· = ·) r.pattern r'.pattern
  email : r'.email = true → r.email = true
  min : Eased (fun x y => x.le y = true) r.min r'.min
  max : Eased (fun x y => y.le x = true) r.max r'.max
  minItems : Eased (· ≤ ·) r.minItems r'.minItems
  maxItems : Eased (· ≥ ·) r.maxItems r'.maxItems
  custom : r'.custom = r.custom

namespace FieldInfo

/-- A field and one of the same kind with looser rules.  What else is said of the two, such as
labels and messages, does not matter. -/
structure LoosenedTo (a b : FieldInfo) : Prop where
  kind : b.kind = a.kind
  required : b.required = true → a.required = true
  rules : a.ruleSet.LoosenedTo b.ruleSet

/-- The custom rule of a field is that of its rules. -/
theorem custom_eq (info : FieldInfo) : info.custom = info.ruleSet.custom := by
  rw [custom, ruleSet]
  cases info.rules <;> rfl

namespace LoosenedTo

variable {a b : FieldInfo} {v values : Json} {value : Option Json} {key : RuleKey}
  {pair : BoundPair} {reason : String}

/-- What the looser rules demand the stricter ones do. -/
theorem demanded (h : a.LoosenedTo b) (hd : b.Demanded values) : a.Demanded values :=
  hd.imp h.required (h.rules.required.exists_old fun _ _ heq hasks => heq ▸ hasks)

/-- The check that is attached is the same. -/
theorem hasCheck (h : a.LoosenedTo b) {check : CustomCheck} (hc : b.HasCheck check) :
    a.HasCheck check := by
  rwa [HasCheck, custom_eq, h.rules.custom, ← custom_eq] at hc

/-- Bounds that are moved apart are in conflict only if they were before. -/
theorem conflict (h : a.LoosenedTo b) (hc : b.Conflict pair) : a.Conflict pair := by
  cases hc with
  | length hk hlow hhigh hlt =>
    obtain ⟨low, hlow', hle⟩ := h.rules.minLength _ hlow
    obtain ⟨high, hhigh', hge⟩ := h.rules.maxLength _ hhigh
    exact .length (h.kind ▸ hk) hlow' hhigh' (lt_of_le_of_lt hge (lt_of_lt_of_le hlt hle))
  | range hk hlow hhigh hlt =>
    obtain ⟨low, hlow', hle⟩ := h.rules.min _ hlow
    obtain ⟨high, hhigh', hge⟩ := h.rules.max _ hhigh
    refine .range (h.kind ▸ hk) hlow' hhigh' (decide_eq_true ?_)
    exact lt_of_le_of_lt (of_decide_eq_true hge)
      (lt_of_lt_of_le (of_decide_eq_true hlt) (of_decide_eq_true hle))
  | items hk hlow hhigh hlt =>
    obtain ⟨low, hlow', hle⟩ := h.rules.minItems _ hlow
    obtain ⟨high, hhigh', hge⟩ := h.rules.maxItems _ hhigh
    exact .items (h.kind ▸ hk) hlow' hhigh' (lt_of_le_of_lt hge (lt_of_lt_of_le hlt hle))

variable [PatternReader]

/-- What breaks one of the looser rules breaks the stricter one. -/
theorem breaks (h : a.LoosenedTo b) (hb : b.Breaks v key) : a.Breaks v key := by
  cases key with
  | required | string | number | boolean | array | object | custom => exact hb
  | date | url =>
    rw [Breaks, h.kind] at hb
    exact hb
  | email =>
    rw [Breaks, h.kind] at hb
    exact ⟨hb.1.imp_left h.rules.email, hb.2⟩
  | pattern =>
    obtain ⟨p, hp, hs⟩ := hb
    have hread := h.rules.pattern.exists_old (fun _ _ heq hread => heq ▸ hread)
      (Option.bind_eq_some_iff.mp hp)
    exact ⟨p, Option.bind_eq_some_iff.mpr hread, hs⟩
  -- what is below a bound is below every higher one, what is above it above every lower one
  | minLength =>
    refine h.rules.minLength.exists_old ?_ hb
    rintro n m hle ⟨s, hs, hlt⟩
    exact ⟨s, hs, lt_of_lt_of_le hlt hle⟩
  | maxLength =>
    refine h.rules.maxLength.exists_old ?_ hb
    rintro n m hle ⟨s, hs, hlt⟩
    exact ⟨s, hs, lt_of_le_of_lt hle hlt⟩
  | minItems =>
    refine h.rules.minItems.exists_old ?_ hb
    rintro n m hle ⟨items, hitems, hlt⟩
    exact ⟨items, hitems, lt_of_lt_of_le hlt hle⟩
  | maxItems =>
    refine h.rules.maxItems.exists_old ?_ hb
    rintro n m hle ⟨items, hitems, hlt⟩
    exact ⟨items, hitems, lt_of_le_of_lt hle hlt⟩
  | min =>
    refine h.rules.min.exists_old ?_ hb
    rintro x y hle ⟨d, hd, hlt⟩
    exact ⟨d, hd, lt_of_lt_of_le hlt (of_decide_eq_true hle)⟩
  | max =>
    refine h.rules.max.exists_old ?_ hb
    rintro x y hle ⟨d, hd, hlt⟩
    exact ⟨d, hd, lt_of_le_of_lt (of_decide_eq_true hle) hlt⟩

/-- A value that obeys the stricter rules obeys the looser ones. -/
theorem obeyed (h : a.LoosenedTo b) (ho : a.Obeyed value) : b.Obeyed value := by
  intro v hv hpass k hk hbroken
  exact ho v hv hpass k (h.kind ▸ hk) (h.breaks hbroken)

/-- What is accepted under strict rules is accepted under looser ones. -/
theorem accepts (h : a.LoosenedTo b) (hacc : a.Accepts value values) :
    b.Accepts value values where
  given hd := hacc.given ⟨hd.1, h.demanded hd.2⟩
  obeyed := h.obeyed hacc.obeyed
  passed check hc := hacc.passed check (h.hasCheck hc)

/-- A pattern that is left was there before. -/
theorem hasBadPattern (h : a.LoosenedTo b) (hp : b.HasBadPattern reason) :
    a.HasBadPattern reason := by
  obtain ⟨hk, hbad⟩ := hp
  exact ⟨h.kind ▸ hk, h.rules.pattern.exists_old (fun _ _ heq herror => heq ▸ herror) hbad⟩

/-- A field that is still held to the rule for addresses was so before. -/
theorem hasBadAddress (h : a.LoosenedTo b) (hp : b.HasBadAddress reason) :
    a.HasBadAddress reason := by
  obtain ⟨hk, hasked, herror⟩ := hp
  rw [h.kind] at hk hasked
  exact ⟨hk, hasked.imp_left h.rules.email, herror⟩

end LoosenedTo
end FieldInfo

/-! ## Main statement -/

/-- If a field compiles, so does every field of its kind with looser rules, and where the validator
of the first has nothing to report, that of the second has nothing to report either. -/
theorem FieldValidator.accepts_of_loosened [PatternReader] {overrides : MessageOverrides}
    {a b : FieldInfo} {v : FieldValidator}
    (h : a.LoosenedTo b) (hv : compile overrides a = .ok v) :
    ∃ w, compile overrides b = .ok w
      ∧ ∀ value values, v.validate value values = none → w.validate value values = none := by
  obtain ⟨hordered, hpattern, haddress⟩ := exists_compile_iff.mp ⟨v, hv⟩
  -- conflicts and refused patterns of the looser rules would be some of the stricter ones
  obtain ⟨w, hw⟩ := exists_compile_iff.mpr
    ⟨fun pair hc => hordered pair (h.conflict hc),
      fun reason hp => hpattern reason (h.hasBadPattern hp),
      fun reason hp => haddress reason (h.hasBadAddress hp)⟩
  refine ⟨w, hw, fun value values hnone => ?_⟩
  exact (validate_eq_none_iff hw).mpr (h.accepts ((validate_eq_none_iff hv).mp hnone))

namespace Credentials

/-- A check that finds every value valid but one code. -/
def notObvious : CustomRule where
  check := some ⟨0, fun value _ => .ok (if value.text? = some "1234" then .invalid none else .valid)⟩

/-- A code of four to six digits that must be given and is not obvious. -/
def strictCode : FieldInfo where
  name := "code"
  kind := .password
  required := true
  rules := some {
    required := some (.flag true), minLength := some 4, maxLength := some 6,
    pattern := some "^[0-9]+$", custom := some notObvious }

/-- A code of two to six characters that is not obvious. -/
def looseCode : FieldInfo where
  name := "code"
  kind := .password
  label := some "Code"
  rules := some { minLength := some 2, maxLength := some 6, custom := some notObvious }

theorem loosenedTo : strictCode.LoosenedTo looseCode where
  kind := rfl
  required := nofun
  rules := {
    required := Rules.eased_none
    minLength := Rules.eased_some (by decide)
    maxLength := Rules.eased_some (by decide)
    pattern := Rules.eased_none
    email := nofun
    min := Rules.eased_none
    max := Rules.eased_none
    minItems := Rules.eased_none
    maxItems := Rules.eased_none
    custom := rfl }

/-- A code that passes the strict rules passes the loose ones. -/
theorem code_accepted_loosely : strictCode.LoosenedTo looseCode
    ∧ ∃ v w, FieldValidator.compile [] strictCode = .ok v
      ∧ FieldValidator.compile [] looseCode = .ok w
      ∧ v.validate (some (.string "2468")) .null = none
      ∧ w.validate (some (.string "2468")) .null = none := by
  have hrun : (FieldValidator.compile [] strictCode).map
      (fun v => v.validate (some (.string "2468")) .null) = .ok none := by decide +kernel
  obtain ⟨v, hv, hnone⟩ := Except.map_eq_ok.mp hrun
  obtain ⟨w, hw, haccepts⟩ := FieldValidator.accepts_of_loosened loosenedTo hv
  exact ⟨loosenedTo, v, w, hv, hw, hnone, haccepts _ _ hnone⟩

end Credentials
end FormLogic
