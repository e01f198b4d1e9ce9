/-
  FormLogic.Proofs.Validation.Rules

  What a field reports of a value, read off the field's description: the
  message of the first of its rules that the value breaks.

  The compiled validator of a field is a list of checks.  Here the rules are
  given without it: `FieldKind.rules` lists the rules of a kind in their
  order, `Breaks` says of each what it is to break it, and `Reports` puts the
  demand for a value before the rules and the custom check behind them.

    * `checksOf_eq` — compiling turns every rule that is given into a check.
    * `validate_eq_some_iff` — a compiled validator finds a message exactly
      where the description reports it.
-/

import FormLogic.Validation.Field
import FormLogic.Proofs.Except

namespace FormLogic

/-! ## Values without content -/

/-- Values that do not count as given: missing, null, the empty text and the empty list. -/
inductive Vacant : Option Json → Prop
  | missing : Vacant none
  | null : Vacant (some .null)
  | emptyText : Vacant (some (.string ""))
  | emptyList : Vacant (some (.array []))

theorem isEmpty_iff_vacant {value : Option Json} :
    Condition.isEmpty value = true ↔ Vacant value := by
  constructor
  · intro h
    cases value with
    | none => exact .missing
    | some v =>
      cases v with
      | null => exact .null
      | string s =>
        have hs : s = "" := by simpa [Condition.isEmpty] using h
        exact hs ▸ .emptyText
      | array items =>
        have hitems : items = [] := by simpa [Condition.isEmpty] using h
        exact hitems ▸ .emptyList
      | bool b => simp [Condition.isEmpty] at h
      | number n => simp [Condition.isEmpty] at h
      | object members => simp [Condition.isEmpty] at h
  · intro h
    cases h <;> rfl

/-- Values that are passed over by the rules: null and the empty text. -/
def PassedOver (v : Json) : Prop := v = .null ∨ v = .string ""

theorem isBlank_iff_passedOver {v : Json} :
    FieldValidator.isBlank v = true ↔ PassedOver v := by
  cases v <;> simp [FieldValidator.isBlank, PassedOver]

/-! ## The rules of a kind -/

/-- The rules that values of a kind are held to, in the order in which they are looked at. -/
def FieldKind.rules : FieldKind → List RuleKey
  | text | email | password | url | tel | textarea | hidden =>
    [.string, .minLength, .maxLength, .pattern, .email, .url]
  | number => [.number, .min, .max]
  | checkbox => [.boolean]
  | date | datetime | time => [.date]
  | select | radio | autocomplete | file => []
  | array => [.array, .minItems, .maxItems]
  | object => [.object]

/-- What the values of a date-like kind are. -/
def FieldKind.dateKind : FieldKind → DateKind
  | datetime => .dateTime
  | time => .time
  | _ => .date

/-! ## Demands that do not hold -/

namespace Demand

theorem ofText_eq_false {test : String → Bool} {v : Json} :
    ofText test v = false ↔ ∃ s, v = .string s ∧ test s = false := by
  cases v <;> simp [ofText, Json.text?]

theorem ofNumber_eq_false {test : Double → Bool} {v : Json} :
    ofNumber test v = false ↔ ∃ d, v.number? = some d ∧ test d = false := by
  cases h : v.number? <;> simp [ofNumber, h]

theorem ofList_eq_false {test : List Json → Bool} {v : Json} :
    ofList test v = false ↔ ∃ items, v = .array items ∧ test items = false := by
  cases v <;> simp [ofList, Json.items?]

theorem isDateValue_eq_false {k : DateKind} {v : Json} :
    isDateValue k v = false ↔ (∀ s, v = .string s → k.isText s = false)
      ∧ ∀ n, v = .number (.int n) → k = .time ∨ n < -instantLimit ∨ instantLimit ≤ n := by
  cases v with
  | number n =>
    cases n with
    | int n =>
      by_cases hk : k = .time
      · simp [isDateValue, hk]
      · have hrange : ¬ (-instantLimit ≤ n ∧ n < instantLimit) ↔
            n < -instantLimit ∨ instantLimit ≤ n := by omega
        rw [isDateValue, bne_iff_ne.mpr hk, Bool.true_and, decide_eq_false_iff_not, hrange]
        simp [hk]
    | double d => simp [isDateValue]
  | _ => simp [isDateValue]

/-- The demand of a bound, if the bound is given, fails as the bound does. -/
theorem exists_map_iff {α : Type} {bound : Option α} {demand : α → Demand} {v : Json}
    {P : α → Prop} (h : ∀ a, (demand a).holds v = false ↔ P a) :
    (∃ d, bound.map demand = some d ∧ d.holds v = false) ↔ ∃ a, bound = some a ∧ P a := by
  cases bound <;> simp [h]

end Demand

/-! ## The rules of a field -/

variable [PatternReader]

/-- The pattern that a text is written for, if there is one. -/
def PatternReader.read? (text : String) : Option Pattern := (PatternReader.read text).toOption

namespace FieldInfo

/-- What it is for a value to break a rule of a field.  A bound that is not given is not broken,
nor is a bound on texts, numbers or lists by a value of another type. -/
def Breaks (info : FieldInfo) (v : Json) : RuleKey → Prop
  | .required => False
  | .string => ∀ s, v ≠ .string s
  | .minLength => ∃ n, info.ruleSet.minLength = some n ∧ ∃ s, v = .string s ∧ s.length < n
  | .maxLength => ∃ n, info.ruleSet.maxLength = some n ∧ ∃ s, v = .string s ∧ n < s.length
  | .pattern => ∃ p, info.ruleSet.pattern.bind PatternReader.read? = some p
      ∧ ∃ s, v = .string s ∧ p.isMatch s = false
  | .email => (info.ruleSet.email = true ∨ info.kind = .email)
      ∧ ∃ p, PatternReader.read? FieldValidator.emailPattern = some p
        ∧ ∃ s, v = .string s ∧ p.isMatch s = false
  | .url => info.kind = .url ∧ ∃ s, v = .string s ∧ ∃ e, Url.ofText s = .error e
  | .number => v.number? = none
  | .min => ∃ b, info.ruleSet.min = some b ∧ ∃ d, v.number? = some d ∧ d.value < b.value
  | .max => ∃ b, info.ruleSet.max = some b ∧ ∃ d, v.number? = some d ∧ b.value < d.value
  | .boolean => ∀ b, v ≠ .bool b
  | .date => (∀ s, v = .string s → info.kind.dateKind.isText s = false)
      ∧ ∀ n, v = .number (.int n) →
        info.kind.dateKind = .time ∨ n < -Demand.instantLimit ∨ Demand.instantLimit ≤ n
  | .array => ∀ items, v ≠ .array items
  | .minItems => ∃ n, info.ruleSet.minItems = some n
      ∧ ∃ items, v = .array items ∧ items.length < n
  | .maxItems => ∃ n, info.ruleSet.maxItems = some n
      ∧ ∃ items, v = .array items ∧ n < items.length
  | .object => ∀ members, v ≠ .object members
  | .custom => False

/-- The bound that the message of a rule can refer to. -/
def ruleParams (info : FieldInfo) : RuleKey → Dict Json
  | .minLength => (info.ruleSet.minLength.map (Message.countBound "min")).getD []
  | .maxLength => (info.ruleSet.maxLength.map (Message.countBound "max")).getD []
  | .min => (info.ruleSet.min.map (Message.bound "min")).getD []
  | .max => (info.ruleSet.max.map (Message.bound "max")).getD []
  | .minItems => (info.ruleSet.minItems.map (Message.countBound "min")).getD []
  | .maxItems => (info.ruleSet.maxItems.map (Message.countBound "max")).getD []
  | _ => []

/-- The message of a rule of a field. -/
def ruleMessage (overrides : MessageOverrides) (info : FieldInfo) (key : RuleKey) : String :=
  Message.resolve overrides key info (info.ruleParams key)

/-- A rule of the field's kind is the first that a value breaks. -/
def FirstBroken (info : FieldInfo) (v : Json) (key : RuleKey) : Prop :=
  ∃ before after, info.kind.rules = before ++ key :: after ∧ info.Breaks v key
    ∧ ∀ k ∈ before, ¬ info.Breaks v k

/-- A value, if there is one that is not passed over, breaks no rule of the field's kind. -/
def Obeyed (info : FieldInfo) (value : Option Json) : Prop :=
  ∀ v, value = some v → ¬ PassedOver v → ∀ k ∈ info.kind.rules, ¬ info.Breaks v k

/-- A value is demanded, by the field itself or by its rule under the values of the form. -/
def Demanded (info : FieldInfo) (values : Json) : Prop :=
  info.required = true ∨ ∃ r, info.ruleSet.required = some r ∧ r.asks values = true

/-- A check is attached to the field. -/
def HasCheck (info : FieldInfo) (check : CustomCheck) : Prop :=
  ∃ rule, info.custom = some rule ∧ rule.check = some check

/-- What a field reports of a value within the values of a form: that a demanded value is
missing, else the first rule that is broken, else what the custom check says. -/
inductive Reports (overrides : MessageOverrides) (info : FieldInfo) (value : Option Json)
    (values : Json) : String → Prop
  | demanded : Vacant value → info.Demanded values →
      Reports overrides info value values (info.ruleMessage overrides .required)
  | broken {v : Json} {key : RuleKey} :
      ¬ (Vacant value ∧ info.Demanded values) → value = some v → ¬ PassedOver v →
      info.FirstBroken v key →
      Reports overrides info value values (info.ruleMessage overrides key)
  | refused {check : CustomCheck} {message : String} :
      ¬ (Vacant value ∧ info.Demanded values) → info.Obeyed value → info.HasCheck check →
      check.run (value.getD .null) values = .ok (.invalid (some message)) →
      Reports overrides info value values message
  | failed {check : CustomCheck} :
      ¬ (Vacant value ∧ info.Demanded values) → info.Obeyed value → info.HasCheck check →
      (check.run (value.getD .null) values = .ok (.invalid none)
        ∨ ∃ e, check.run (value.getD .null) values = .error e) →
      Reports overrides info value values (info.ruleMessage overrides .custom)

/-! ## Rules as checks -/

/-- The demand that a rule of a field makes, if the field gives the rule. -/
def demand? (info : FieldInfo) : RuleKey → Option Demand
  | .required => none
  | .string => some .isText
  | .minLength => info.ruleSet.minLength.map .minLength
  | .maxLength => info.ruleSet.maxLength.map .maxLength
  | .pattern => (info.ruleSet.pattern.bind PatternReader.read?).map .pattern
  | .email =>
    if info.ruleSet.email || info.kind = .email then
      (PatternReader.read? FieldValidator.emailPattern).map .email
    else none
  | .url => if info.kind = .url then some .url else none
  | .number => some .isNumber
  | .min => info.ruleSet.min.map .min
  | .max => info.ruleSet.max.map .max
  | .boolean => some .isFlag
  | .date => some (.isDate info.kind.dateKind)
  | .array => some .isList
  | .minItems => info.ruleSet.minItems.map .minItems
  | .maxItems => info.ruleSet.maxItems.map .maxItems
  | .object => some .isRecord
  | .custom => none

/-- The check of a rule of a field, if the field gives the rule. -/
def check? (overrides : MessageOverrides) (info : FieldInfo) (key : RuleKey) : Option Check :=
  (info.demand? key).map fun d => ⟨d, info.ruleMessage overrides key⟩

/-- The checks of rules, in their order. -/
def checks (overrides : MessageOverrides) (info : FieldInfo) (keys : List RuleKey) :
    List Check :=
  keys.flatMap fun k => (info.check? overrides k).toList

/-- A rule is broken where it makes a demand that does not hold. -/
theorem breaks_iff {info : FieldInfo} {v : Json} {key : RuleKey} :
    info.Breaks v key ↔ ∃ d, info.demand? key = some d ∧ d.holds v = false := by
  cases key with
  | required => simp [Breaks, demand?]
  | custom => simp [Breaks, demand?]
  | string => cases v <;> simp [Breaks, demand?, Demand.holds, Json.isString]
  | boolean => cases v <;> simp [Breaks, demand?, Demand.holds, Json.isBool]
  | array => cases v <;> simp [Breaks, demand?, Demand.holds, Json.isArray]
  | object => cases v <;> simp [Breaks, demand?, Demand.holds, Json.isObject]
  | number => simp [Breaks, demand?, Demand.holds]
  | minLength =>
    exact (Demand.exists_map_iff fun n => by simp [Demand.holds, Demand.ofText_eq_false]).symm
  | maxLength =>
    exact (Demand.exists_map_iff fun n => by simp [Demand.holds, Demand.ofText_eq_false]).symm
  | pattern =>
    exact (Demand.exists_map_iff fun p => by simp [Demand.holds, Demand.ofText_eq_false]).symm
  | minItems =>
    exact (Demand.exists_map_iff fun n => by simp [Demand.holds, Demand.ofList_eq_false]).symm
  | maxItems =>
    exact (Demand.exists_map_iff fun n => by simp [Demand.holds, Demand.ofList_eq_false]).symm
  | min =>
    exact (Demand.exists_map_iff fun b => by
      simp [Demand.holds, Demand.ofNumber_eq_false, Double.le]).symm
  | max =>
    exact (Demand.exists_map_iff fun b => by
      simp [Demand.holds, Demand.ofNumber_eq_false, Double.le]).symm
  | email =>
    by_cases h : info.ruleSet.email = true ∨ info.kind = .email
    · simp only [Breaks, demand?, h, Bool.or_eq_true, decide_eq_true_eq, if_true, true_and]
      exact (Demand.exists_map_iff fun p => by simp [Demand.holds, Demand.ofText_eq_false]).symm
    · simp [Breaks, demand?, h]
  | url =>
    by_cases h : info.kind = .url
    · simp [Breaks, demand?, h, Demand.holds, Demand.ofText_eq_false, Except.toBool_eq_false]
    · simp [Breaks, demand?, h]
  | date => simp [Breaks, demand?, Demand.holds, Demand.isDateValue_eq_false]

/-- A rule has no check that fails where it is not broken. -/
theorem check?_violation? {overrides : MessageOverrides} {info : FieldInfo} {v : Json}
    {key : RuleKey} {m : String} :
    (info.check? overrides key).bind (·.violation? v) = some m ↔
      info.Breaks v key ∧ m = info.ruleMessage overrides key := by
  rw [breaks_iff, check?]
  cases info.demand? key with
  | none => simp
  | some d =>
    cases h : d.holds v with
    | true => simp [Check.violation?, h]
    | false =>
      simp only [Option.map_some, Option.bind_some, Check.violation?, h, Option.some.injEq,
        exists_eq_left', true_and, Bool.false_eq_true, if_false]
      exact eq_comm

/-- A rule that is not broken has no message. -/
theorem check?_violation?_eq_none {overrides : MessageOverrides} {info : FieldInfo} {v : Json}
    {key : RuleKey} :
    (info.check? overrides key).bind (·.violation? v) = none ↔ ¬ info.Breaks v key := by
  rw [Option.eq_none_iff_forall_ne_some]
  constructor
  · intro h hb
    exact h _ (check?_violation?.mpr ⟨hb, rfl⟩)
  · intro hb m hm
    exact hb (check?_violation?.mp hm).1

end FieldInfo

/-! ## Compiled checks -/

namespace FieldValidator

variable {overrides : MessageOverrides} {info : FieldInfo}

/-- The check of a bound is the check of its rule. -/
theorem boundCheck_eq {α : Type} {demand : α → Demand} {key : RuleKey} {params : α → Dict Json}
    {bound : Option α} (hd : info.demand? key = bound.map demand)
    (hp : info.ruleParams key = (bound.map params).getD []) :
    boundCheck overrides info demand key params bound = (info.check? overrides key).toList := by
  rw [FieldInfo.check?, hd, FieldInfo.ruleMessage, hp]
  cases bound <;> rfl

/-- The check of a pattern is the check of its rule. -/
theorem patternCheck_eq {demand : Pattern → Demand} {key : RuleKey} {source : Option String}
    {checks : List Check} (hd : info.demand? key = (source.bind PatternReader.read?).map demand)
    (hp : info.ruleParams key = [])
    (h : patternCheck overrides info demand key source = .ok checks) :
    checks = (info.check? overrides key).toList := by
  rw [FieldInfo.check?, hd, FieldInfo.ruleMessage, hp]
  cases source with
  | none =>
    obtain rfl := Except.ok.inj h
    rfl
  | some text =>
    rw [patternCheck] at h
    cases hp : PatternReader.read text with
    | error reason => simp [hp] at h
    | ok p =>
      simp only [hp] at h
      obtain rfl := Except.ok.inj h
      simp [PatternReader.read?, Except.toOption, hp, check]

/-- The checks of a field for texts are those of the rules for texts. -/
theorem textChecks_eq {checks : List Check} (h : textChecks overrides info = .ok checks) :
    checks = FieldInfo.checks overrides info
      [.string, .minLength, .maxLength, .pattern, .email, .url] := by
  -- bounds in the wrong order end compiling, so that nothing is left of their comparison
  obtain ⟨-, -, h⟩ := Except.bind_eq_ok.mp h
  obtain ⟨pattern, hpattern, h⟩ := Except.bind_eq_ok.mp h
  obtain ⟨email, hemail, h⟩ := Except.bind_eq_ok.mp h
  have hp : pattern = (info.check? overrides .pattern).toList := patternCheck_eq rfl rfl hpattern
  have he : email = (info.check? overrides .email).toList := by
    refine patternCheck_eq ?_ rfl hemail
    by_cases hc : info.ruleSet.email = true ∨ info.kind = .email <;>
      simp [FieldInfo.demand?, hc]
  have hu : (if info.kind = .url then [check overrides info .url .url []] else [])
      = (info.check? overrides .url).toList := by
    by_cases hc : info.kind = .url <;>
      simp [FieldInfo.check?, FieldInfo.demand?, FieldInfo.ruleMessage, FieldInfo.ruleParams,
        check, hc]
  have hs : [check overrides info .isText .string []]
      = (info.check? overrides .string).toList := rfl
  obtain rfl := Except.ok.inj h
  rw [hp, he, hu, hs, boundCheck_eq rfl rfl, boundCheck_eq rfl rfl]
  simp [FieldInfo.checks]

/-- The checks of a field for numbers are those of the rules for numbers. -/
theorem numberChecks_eq {checks : List Check} (h : numberChecks overrides info = .ok checks) :
    checks = FieldInfo.checks overrides info [.number, .min, .max] := by
  obtain ⟨-, -, h⟩ := Except.bind_eq_ok.mp h
  have hn : [check overrides info .isNumber .number []]
      = (info.check? overrides .number).toList := rfl
  obtain rfl := Except.ok.inj h
  rw [hn, boundCheck_eq rfl rfl, boundCheck_eq rfl rfl]
  simp [FieldInfo.checks]

/-- The checks of a field for lists are those of the rules for lists. -/
theorem listChecks_eq {checks : List Check} (h : listChecks overrides info = .ok checks) :
    checks = FieldInfo.checks overrides info [.array, .minItems, .maxItems] := by
  obtain ⟨-, -, h⟩ := Except.bind_eq_ok.mp h
  have ha : [check overrides info .isList .array []]
      = (info.check? overrides .array).toList := rfl
  obtain rfl := Except.ok.inj h
  rw [ha, boundCheck_eq rfl rfl, boundCheck_eq rfl rfl]
  simp [FieldInfo.checks]

/-- The checks of a field are those of the rules of its kind. -/
theorem checksOf_eq {checks : List Check} (h : checksOf overrides info = .ok checks) :
    checks = FieldInfo.checks overrides info info.kind.rules := by
  -- the date-like kinds differ only in what they take for a date
  have hdate : ∀ k, info.kind.dateKind = k →
      [dateCheck overrides info k] = FieldInfo.checks overrides info [.date] := by
    intro k hk
    simp [FieldInfo.checks, FieldInfo.check?, FieldInfo.demand?, FieldInfo.ruleMessage,
      FieldInfo.ruleParams, dateCheck, check, hk]
  rw [checksOf] at h
  cases hk : info.kind <;> simp only [hk] at h hdate ⊢
  case text | email | password | url | tel | textarea | hidden => exact textChecks_eq h
  case number => exact numberChecks_eq h
  case array => exact listChecks_eq h
  case date | datetime | time => exact (Except.ok.inj h).symm.trans (hdate _ rfl)
  all_goals
    obtain rfl := Except.ok.inj h
    rfl

/-- Checks are run as the rules that they come from are looked at. -/
theorem firstViolation?_checks (keys : List RuleKey) (v : Json) :
    Check.firstViolation? (FieldInfo.checks overrides info keys) v =
      keys.findSome? fun k => (info.check? overrides k).bind (·.violation? v) := by
  induction keys with
  | nil => rfl
  | cons k ks ih =>
    have hhead : ((info.check? overrides k).toList).findSome? (·.violation? v)
        = (info.check? overrides k).bind (·.violation? v) := by
      cases info.check? overrides k <;> simp
    simp only [Check.firstViolation?, FieldInfo.checks] at ih ⊢
    rw [List.flatMap_cons, List.findSome?_append, ih, hhead, List.findSome?_cons]
    cases (info.check? overrides k).bind (·.violation? v) <;> rfl

/-- What a compiled validator is made of. -/
theorem compile_eq_ok {v : FieldValidator} (h : compile overrides info = .ok v) :
    v = { name := info.name
          kind := info.kind
          checks := FieldInfo.checks overrides info info.kind.rules
          requiredFlag := info.required
          requiredRule := info.ruleSet.required
          requiredMessage := info.ruleMessage overrides .required
          custom := customStep overrides info
          dependencies := info.dependencies } := by
  obtain ⟨checks, hchecks, h⟩ := Except.bind_eq_ok.mp h
  obtain rfl := Except.ok.inj h
  rw [checksOf_eq hchecks]
  rfl

theorem compile_name {v : FieldValidator} (h : compile overrides info = .ok v) :
    v.name = info.name := by
  rw [compile_eq_ok h]

/-! ## Running a compiled validator -/

omit [PatternReader] in
/-- A missing value is validated as null is. -/
theorem validate_getD_null (v : FieldValidator) (value : Option Json) (values : Json) :
    v.validate (some (value.getD .null)) values = v.validate value values := by
  cases value <;> rfl

/-- A value is required where the description demands one. -/
theorem isRequired_iff {v : FieldValidator} (h : compile overrides info = .ok v) {values : Json} :
    v.isRequired values = true ↔ info.Demanded values := by
  rw [compile_eq_ok h, isRequired, FieldInfo.Demanded]
  simp only [Bool.or_eq_true, Option.any_eq_true]

/-- The checks report the first rule that a value breaks. -/
theorem checkMessage?_eq_some_iff {v : FieldValidator} (h : compile overrides info = .ok v)
    {value : Json} {m : String} :
    v.checkMessage? value = some m ↔ ¬ PassedOver value
      ∧ ∃ key, info.FirstBroken value key ∧ m = info.ruleMessage overrides key := by
  rw [compile_eq_ok h, checkMessage?, ← isBlank_iff_passedOver]
  cases isBlank value with
  | true => simp
  | false =>
    simp only [Bool.false_eq_true, if_false, not_false_eq_true, true_and]
    rw [firstViolation?_checks, List.findSome?_eq_some_iff]
    simp only [FieldInfo.check?_violation?, FieldInfo.check?_violation?_eq_none]
    constructor
    · rintro ⟨before, key, after, hrules, ⟨hbroken, hm⟩, hbefore⟩
      exact ⟨key, ⟨before, after, hrules, hbroken, hbefore⟩, hm⟩
    · rintro ⟨key, ⟨before, after, hrules, hbroken, hbefore⟩, hm⟩
      exact ⟨before, key, after, hrules, ⟨hbroken, hm⟩, hbefore⟩

/-- The checks have nothing to report where every rule is obeyed. -/
theorem checkMessage?_eq_none_iff {v : FieldValidator} (h : compile overrides info = .ok v)
    {value : Json} :
    v.checkMessage? value = none ↔
      (¬ PassedOver value → ∀ k ∈ info.kind.rules, ¬ info.Breaks value k) := by
  rw [compile_eq_ok h, checkMessage?, ← isBlank_iff_passedOver]
  cases isBlank value with
  | true => simp
  | false =>
    simp only [Bool.false_eq_true, if_false, not_false_eq_true, true_implies]
    rw [firstViolation?_checks, List.findSome?_eq_none_iff]
    simp only [FieldInfo.check?_violation?_eq_none]

/-- Null is passed over, so that a missing value is held to no rule. -/
theorem obeyed_iff {value : Option Json} :
    info.Obeyed value ↔ (¬ PassedOver (value.getD .null) →
      ∀ k ∈ info.kind.rules, ¬ info.Breaks (value.getD .null) k) := by
  cases value with
  | none => simp [FieldInfo.Obeyed, PassedOver]
  | some v => simp [FieldInfo.Obeyed]

omit [PatternReader] in
/-- The custom step of a compiled validator runs the check of the description. -/
theorem custom_bind_eq_some_iff {value values : Json} {m : String} :
    (customStep overrides info).bind (fun step => customMessage? step value values) = some m ↔
      ∃ check, info.HasCheck check
        ∧ (check.run value values = .ok (.invalid (some m))
          ∨ (check.run value values = .ok (.invalid none)
              ∨ ∃ e, check.run value values = .error e)
            ∧ m = info.ruleMessage overrides .custom) := by
  have hstep : ∀ check : CustomCheck,
      customMessage? ⟨check, info.ruleMessage overrides .custom⟩ value values = some m ↔
        (check.run value values = .ok (.invalid (some m))
          ∨ (check.run value values = .ok (.invalid none)
              ∨ ∃ e, check.run value values = .error e)
            ∧ m = info.ruleMessage overrides .custom) := by
    intro check
    rw [customMessage?]
    cases hrun : check.run value values with
    | error e => simp [eq_comm]
    | ok verdict =>
      cases verdict with
      | valid => simp
      | invalid message => cases message <;> simp [eq_comm]
  have hcustom : customStep overrides info
      = (info.custom.bind (·.check)).map fun c => ⟨c, info.ruleMessage overrides .custom⟩ := rfl
  rw [hcustom]
  simp only [Option.bind_map, Option.bind_eq_some_iff, Function.comp_apply, hstep,
    FieldInfo.HasCheck]

/-- An empty value that is demanded is reported as missing. -/
theorem validate_of_demanded {v : FieldValidator} (h : compile overrides info = .ok v)
    {value : Option Json} {values : Json} (hd : Vacant value ∧ info.Demanded values) :
    v.validate value values = some (info.ruleMessage overrides .required) := by
  have hcond : (Condition.isEmpty value && v.isRequired values) = true := by
    rw [Bool.and_eq_true, isEmpty_iff_vacant, isRequired_iff h]
    exact hd
  rw [validate, if_pos hcond, compile_eq_ok h]

/-- Where no value is missing, the checks come first and the custom check behind them. -/
theorem validate_of_not_demanded {v : FieldValidator} (h : compile overrides info = .ok v)
    {value : Option Json} {values : Json} (hd : ¬ (Vacant value ∧ info.Demanded values)) :
    v.validate value values = (v.checkMessage? (value.getD .null)).or
      ((customStep overrides info).bind
        fun step => customMessage? step (value.getD .null) values) := by
  have hcond : ¬ (Condition.isEmpty value && v.isRequired values) = true := by
    rw [Bool.and_eq_true, isEmpty_iff_vacant, isRequired_iff h]
    exact hd
  have hcustom : v.custom = customStep overrides info := by rw [compile_eq_ok h]
  rw [validate, if_neg hcond, hcustom]
  cases hc : v.checkMessage? (value.getD .null) <;> simp [hc]

/-- A compiled validator finds a message exactly where the description reports it. -/
theorem validate_eq_some_iff {v : FieldValidator} (h : compile overrides info = .ok v)
    {value : Option Json} {values : Json} {m : String} :
    v.validate value values = some m ↔ info.Reports overrides value values m := by
  by_cases hd : Vacant value ∧ info.Demanded values
  -- a demanded value that is missing is reported before all else
  · rw [validate_of_demanded h hd, Option.some.injEq]
    constructor
    · rintro rfl
      exact .demanded hd.1 hd.2
    · intro hr
      cases hr with
      | demanded _ _ => rfl
      | broken hn _ _ _ => exact absurd hd hn
      | refused hn _ _ _ => exact absurd hd hn
      | failed hn _ _ _ => exact absurd hd hn
  -- otherwise the custom check is asked only where every rule is obeyed
  · rw [validate_of_not_demanded h hd, Option.or_eq_some_iff, checkMessage?_eq_some_iff h,
      checkMessage?_eq_none_iff h, ← obeyed_iff, custom_bind_eq_some_iff]
    constructor
    · rintro (⟨hpass, key, hfirst, rfl⟩ | ⟨hobeyed, check, hcheck, hrun | ⟨hrun, rfl⟩⟩)
      · cases value with
        | none => exact absurd (Or.inl rfl) hpass
        | some w => exact .broken hd rfl hpass hfirst
      · exact .refused hd hobeyed hcheck hrun
      · exact .failed hd hobeyed hcheck hrun
    · intro hr
      cases hr with
      | demanded hv hdem => exact absurd ⟨hv, hdem⟩ hd
      | broken _ hw hpass hfirst =>
        subst hw
        exact Or.inl ⟨hpass, _, hfirst, rfl⟩
      | refused _ hobeyed hcheck hrun => exact Or.inr ⟨hobeyed, _, hcheck, Or.inl hrun⟩
      | failed _ hobeyed hcheck hrun => exact Or.inr ⟨hobeyed, _, hcheck, Or.inr ⟨hrun, rfl⟩⟩

end FieldValidator
end FormLogic
