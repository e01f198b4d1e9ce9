/-
  FormLogic.Proofs.Validation.Fillable

  Fields that can be filled in.

  A field whose rules are a type and bounds is filled in by one value made
  from these rules: a text or list of the least size that is not empty, a
  bound itself where a number is asked for, some value of the type
  otherwise (`FieldInfo.filling`).  It obeys the rules unless two bounds are
  in conflict or an upper bound of zero leaves the empty value alone, which
  does not count as given.  So compiling refuses all bounds that no value
  can meet but those of zero.

    * `FieldInfo.not_breaks_filling` — the value obeys all rules of its kind.
    * `FieldInfo.exists_obeying_iff` — which rules are obeyed by some value.
    * `FieldValidator.fillable_iff` — which compiled fields can be filled in,
      and which cannot be under any circumstances.
-/

import Mathlib.Tactic.ByContra
import FormLogic.Pattern.Parser
import FormLogic.Proofs.Validation.Acceptance

namespace FormLogic

variable {overrides : MessageOverrides}

namespace FieldInfo

/-- A field without a format and without a custom check: of its rules there are left the type of
its kind and the bounds. -/
structure IsPlain (info : FieldInfo) : Prop where
  check : ∀ check, ¬ info.HasCheck check
  kind_ne_email : info.kind ≠ .email
  kind_ne_url : info.kind ≠ .url
  pattern : info.ruleSet.pattern = none
  email : info.ruleSet.email = false

/-- A field for texts or lists that has room for the empty one only. -/
def HasNoRoom (info : FieldInfo) : Prop :=
  info.kind.isTextual = true ∧ info.ruleSet.maxLength = some 0
    ∨ info.kind = .array ∧ info.ruleSet.maxItems = some 0

/-! ## A value for every field -/

/-- The least size that is not empty and not below a lower bound. -/
def leastSize (lower : Option Nat) : Nat := max 1 (lower.getD 0)

/-- A number within bounds in order: one of the bounds, or zero if there are none. -/
def numberBetween (lower upper : Option Double) : Double :=
  (lower.or upper).getD (Double.zero false)

/-- A value that fills in a field with such bounds. -/
def filling (info : FieldInfo) : Json :=
  match info.kind with
  | .text | .email | .password | .url | .tel | .textarea | .hidden =>
    .string (String.ofList (List.replicate (leastSize info.ruleSet.minLength) 'x'))
  | .number => .number (.double (numberBetween info.ruleSet.min info.ruleSet.max))
  | .checkbox => .bool true
  | .date => .string "2000-01-01"
  | .datetime => .string "2000-01-01T00:00"
  | .time => .string "00:00"
  | .select | .radio | .autocomplete | .file => .bool true
  | .array => .array (List.replicate (leastSize info.ruleSet.minItems) .null)
  | .object => .object []

variable {info : FieldInfo} {v values : Json} {value : Option Json}

theorem leastSize_pos (lower : Option Nat) : 0 < leastSize lower := by
  rw [leastSize]
  omega

theorem le_leastSize {lower : Option Nat} {n : Nat} (h : lower = some n) :
    n ≤ leastSize lower := by
  rw [leastSize, h, Option.getD_some]
  omega

/-- The least size is below every upper bound that is not zero and not below the lower one. -/
theorem leastSize_le {lower : Option Nat} {n : Nat} (hn : n ≠ 0)
    (h : ∀ m, lower = some m → m ≤ n) : leastSize lower ≤ n := by
  rw [leastSize]
  cases lower with
  | none =>
    rw [Option.getD_none]
    omega
  | some m =>
    have hm : m ≤ n := h m rfl
    rw [Option.getD_some]
    omega

/-- A filling is never empty. -/
theorem not_vacant_filling (info : FieldInfo) : ¬ Vacant (some info.filling) := by
  have htext : 0 < leastSize info.ruleSet.minLength := leastSize_pos _
  have hlist : 0 < leastSize info.ruleSet.minItems := leastSize_pos _
  rw [← isEmpty_iff_vacant, filling]
  cases info.kind
  case text | email | password | url | tel | textarea | hidden =>
    simp [Condition.isEmpty, htext.ne']
  case array => simp [Condition.isEmpty, hlist.ne']
  all_goals simp [Condition.isEmpty]

/-! ## Values within bounds -/

/-- A size lies within bounds that are given. -/
def SizeWithin (lower upper : Option Nat) (n : Nat) : Prop :=
  (∀ low, lower = some low → low ≤ n) ∧ ∀ high, upper = some high → n ≤ high

/-- A number lies within bounds that are given. -/
def ValueWithin (lower upper : Option Double) (d : Double) : Prop :=
  (∀ low, lower = some low → low.value ≤ d.value)
    ∧ ∀ high, upper = some high → d.value ≤ high.value

/-- The least size lies within bounds that are in order and leave room. -/
theorem sizeWithin_leastSize {lower upper : Option Nat} (hroom : upper ≠ some 0)
    (hordered : ∀ low high, lower = some low → upper = some high → low ≤ high) :
    SizeWithin lower upper (leastSize lower) := by
  refine ⟨fun low => le_leastSize, fun high hhigh => ?_⟩
  refine leastSize_le ?_ fun low hlow => hordered low high hlow hhigh
  rintro rfl
  exact hroom hhigh

/-- A bound, or zero if there are none, lies within bounds that are in order. -/
theorem valueWithin_numberBetween {lower upper : Option Double}
    (hordered : ∀ low high, lower = some low → upper = some high → low.value ≤ high.value) :
    ValueWithin lower upper (numberBetween lower upper) := by
  cases lower with
  | some l =>
    refine ⟨fun low hlow => ?_, fun high hhigh => hordered l high rfl hhigh⟩
    obtain rfl := Option.some.inj hlow
    exact le_rfl
  | none =>
    refine ⟨fun low hlow => absurd hlow.symm (Option.some_ne_none low), fun high hhigh => ?_⟩
    subst hhigh
    exact le_rfl

/-! ## Rules that are obeyed -/

theorem rules_of_isTextual {k : FieldKind} (h : k.isTextual = true) :
    k.rules = [.string, .minLength, .maxLength, .pattern, .email, .url] := by
  cases k <;> first | rfl | cases h

variable [PatternReader]

/-- A value obeys the rules of a plain field for texts if it is a text of a length within the
bounds. -/
theorem obeys_text_iff (h : info.IsPlain) (hk : info.kind.isTextual = true) :
    (∀ k ∈ info.kind.rules, ¬ info.Breaks v k) ↔
      ∃ s, v = .string s ∧ SizeWithin info.ruleSet.minLength info.ruleSet.maxLength s.length := by
  rw [rules_of_isTextual hk]
  cases v
  case string s =>
    simp [Breaks, SizeWithin, h.pattern, h.email, h.kind_ne_email, h.kind_ne_url]
  -- what is no text breaks the first rule
  all_goals simp [Breaks]

/-- A value obeys the rules of a field for numbers if it is a number within the bounds. -/
theorem obeys_number_iff (hk : info.kind = .number) :
    (∀ k ∈ info.kind.rules, ¬ info.Breaks v k) ↔
      ∃ d, v.number? = some d ∧ ValueWithin info.ruleSet.min info.ruleSet.max d := by
  rw [hk, FieldKind.rules]
  -- what is no number breaks the first rule, and none of the bounds
  cases hv : v.number? <;> simp [Breaks, ValueWithin, hv]

/-- A value obeys the rules of a field for lists if it is a list of a size within the bounds. -/
theorem obeys_list_iff (hk : info.kind = .array) :
    (∀ k ∈ info.kind.rules, ¬ info.Breaks v k) ↔
      ∃ items, v = .array items
        ∧ SizeWithin info.ruleSet.minItems info.ruleSet.maxItems items.length := by
  rw [hk, FieldKind.rules]
  cases v
  case array items => simp [Breaks, SizeWithin]
  all_goals simp [Breaks]

/-- The filling of a field without bounds is of the type that its kind asks for. -/
theorem not_breaks_filling_of_unbounded (htext : info.kind.isTextual ≠ true)
    (hnumber : info.kind ≠ .number) (hlist : info.kind ≠ .array) :
    ∀ k ∈ info.kind.rules, ¬ info.Breaks info.filling k := by
  have hdate : DateKind.date.isText "2000-01-01" = true := by decide +kernel
  have hdateTime : DateKind.dateTime.isText "2000-01-01T00:00" = true := by decide +kernel
  have htime : DateKind.time.isText "00:00" = true := by decide +kernel
  rw [filling]
  cases hk : info.kind
  case text | email | password | url | tel | textarea | hidden =>
    exact absurd (by rw [hk]; rfl) htext
  case number => exact absurd hk hnumber
  case array => exact absurd hk hlist
  case date | datetime | time =>
    simp [FieldKind.rules, Breaks, hk, FieldKind.dateKind, hdate, hdateTime, htime]
  all_goals simp [FieldKind.rules, Breaks]

/-- The filling of a plain field obeys the rules, unless bounds are in conflict or leave no
room. -/
theorem not_breaks_filling (h : info.IsPlain) (hordered : ∀ pair, ¬ info.Conflict pair)
    (hroom : ¬ info.HasNoRoom) : ∀ k ∈ info.kind.rules, ¬ info.Breaks info.filling k := by
  by_cases htext : info.kind.isTextual = true
  · refine (obeys_text_iff h htext).mpr ?_
    refine ⟨String.ofList (List.replicate (leastSize info.ruleSet.minLength) 'x'), ?_, ?_⟩
    · rw [filling]
      cases hk : info.kind <;> first | rfl | simp [hk, FieldKind.isTextual] at htext
    · rw [String.length_ofList, List.length_replicate]
      refine sizeWithin_leastSize (fun hzero => hroom (Or.inl ⟨htext, hzero⟩)) ?_
      exact fun low high hlow hhigh => not_lt.mp fun hlt =>
        hordered .length (.length htext hlow hhigh hlt)
  -- bounds that are out of order would be in conflict, each pair for its own kind of field
  by_cases hnumber : info.kind = .number
  · refine (obeys_number_iff hnumber).mpr ⟨_, by rw [filling, hnumber]; rfl, ?_⟩
    refine valueWithin_numberBetween fun low high hlow hhigh => not_lt.mp fun hlt => ?_
    exact hordered .range (.range hnumber hlow hhigh (decide_eq_true hlt))
  by_cases hlist : info.kind = .array
  · refine (obeys_list_iff hlist).mpr ⟨_, by rw [filling, hlist], ?_⟩
    rw [List.length_replicate]
    refine sizeWithin_leastSize (fun hzero => hroom (Or.inr ⟨hlist, hzero⟩)) ?_
    exact fun low high hlow hhigh => not_lt.mp fun hlt =>
      hordered .items (.items hlist hlow hhigh hlt)
  exact not_breaks_filling_of_unbounded htext hnumber hlist

/-- Bounds in conflict are met by no value. -/
theorem Conflict.exists_breaks {pair : BoundPair} (h : info.IsPlain)
    (hconflict : info.Conflict pair) : ∃ k ∈ info.kind.rules, info.Breaks v k := by
  by_contra hobeys
  push Not at hobeys
  cases hconflict with
  | length hk hlow hhigh hlt =>
    obtain ⟨s, -, hle, hge⟩ := (obeys_text_iff h hk).mp hobeys
    exact absurd ((hle _ hlow).trans (hge _ hhigh)) (not_le.mpr hlt)
  | range hk hlow hhigh hlt =>
    obtain ⟨d, -, hle, hge⟩ := (obeys_number_iff hk).mp hobeys
    exact absurd ((hle _ hlow).trans (hge _ hhigh)) (not_le.mpr (of_decide_eq_true hlt))
  | items hk hlow hhigh hlt =>
    obtain ⟨items, -, hle, hge⟩ := (obeys_list_iff hk).mp hobeys
    exact absurd ((hle _ hlow).trans (hge _ hhigh)) (not_le.mpr hlt)

/-- Where there is no room, every value that is not empty breaks a rule. -/
theorem HasNoRoom.exists_breaks (h : info.IsPlain) (hroom : info.HasNoRoom)
    (hv : ¬ Vacant (some v)) : ∃ k ∈ info.kind.rules, info.Breaks v k := by
  by_contra hobeys
  push Not at hobeys
  rcases hroom with ⟨hk, hzero⟩ | ⟨hk, hzero⟩
  · obtain ⟨s, rfl, -, hge⟩ := (obeys_text_iff h hk).mp hobeys
    have hs : s = "" := String.length_eq_zero_iff.mp (Nat.le_zero.mp (hge 0 hzero))
    exact hv (hs ▸ .emptyText)
  · obtain ⟨items, rfl, -, hge⟩ := (obeys_list_iff hk).mp hobeys
    have hitems : items = [] := List.length_eq_zero_iff.mp (Nat.le_zero.mp (hge 0 hzero))
    exact hv (hitems ▸ .emptyList)

/-- Some value that is not empty obeys the rules of a plain field exactly if no bounds are in
conflict and they leave room. -/
theorem exists_obeying_iff (h : info.IsPlain) :
    (∃ v, ¬ Vacant (some v) ∧ ∀ k ∈ info.kind.rules, ¬ info.Breaks v k) ↔
      (∀ pair, ¬ info.Conflict pair) ∧ ¬ info.HasNoRoom := by
  constructor
  · rintro ⟨v, hv, hobeys⟩
    constructor
    · intro pair hconflict
      obtain ⟨k, hk, hbroken⟩ := hconflict.exists_breaks h
      exact hobeys k hk hbroken
    · intro hroom
      obtain ⟨k, hk, hbroken⟩ := hroom.exists_breaks h hv
      exact hobeys k hk hbroken
  · rintro ⟨hordered, hroom⟩
    exact ⟨info.filling, info.not_vacant_filling, not_breaks_filling h hordered hroom⟩

end FieldInfo

/-! ## Main statement -/

namespace FieldValidator

variable [PatternReader] {info : FieldInfo} {v : FieldValidator} {values : Json}

/-- A field is refused for its bounds exactly if some are in conflict. -/
theorem exists_conflicting_iff :
    (∃ pair, compile overrides info = .error (.conflictingBounds info.name pair)) ↔
      ∃ pair, info.Conflict pair := by
  refine exists_congr fun pair => ?_
  rw [compile_eq_error_iff, Refuses]
  simp

/-- Null is accepted where no value is demanded, and a value that obeys the rules is accepted in any
case. -/
theorem exists_accepted_iff (h : info.IsPlain) (hv : compile overrides info = .ok v) :
    (∃ value, v.validate (some value) values = none) ↔
      ¬ (info.Demanded values ∧ info.HasNoRoom) := by
  obtain ⟨hordered, -⟩ := exists_compile_iff.mp ⟨v, hv⟩
  simp only [validate_eq_none_iff hv]
  constructor
  · -- an accepted value is given, so it is not passed over, and breaks a rule for want of room
    rintro ⟨value, hacc⟩ ⟨hd, hroom⟩
    have hgiven : ¬ Vacant (some value) := fun hvacant => hacc.given ⟨hvacant, hd⟩
    obtain ⟨k, hk, hbroken⟩ := hroom.exists_breaks h hgiven
    refine hacc.obeyed value rfl (fun hpass => hgiven ?_) k hk hbroken
    rcases hpass with rfl | rfl
    · exact .null
    · exact .emptyText
  · intro hnot
    by_cases hd : info.Demanded values
    · have hroom : ¬ info.HasNoRoom := fun hroom => hnot ⟨hd, hroom⟩
      refine ⟨info.filling, fun ⟨hvacant, _⟩ => info.not_vacant_filling hvacant, ?_,
        fun check hc => absurd hc (h.check check)⟩
      rintro w ⟨⟩ -
      exact FieldInfo.not_breaks_filling h hordered hroom
    · refine ⟨.null, fun ⟨_, hd'⟩ => hd hd', ?_, fun check hc => absurd hc (h.check check)⟩
      rintro w ⟨⟩ hpass
      exact absurd (Or.inl rfl) hpass

/-- A plain field that compiles can be filled in under all values of the form but those under which
a value is demanded that there is no room for; then everything is rejected, a missing value
included.  And the bounds of a plain field that no value meets, the empty ones apart, are those
that are refused in compiling and those that leave no room. -/
theorem fillable_iff (h : info.IsPlain) :
    (∀ v values, compile overrides info = .ok v →
      ((∃ value, v.validate (some value) values = none) ↔
        ¬ (info.Demanded values ∧ info.HasNoRoom))
      ∧ (info.Demanded values ∧ info.HasNoRoom → ∀ value, v.validate value values ≠ none))
    ∧ ((∃ pair, compile overrides info = .error (.conflictingBounds info.name pair))
          ∨ info.HasNoRoom ↔
        ∀ value, ¬ Vacant (some value) → ∃ k ∈ info.kind.rules, info.Breaks value k) := by
  constructor
  · intro v values hv
    have hiff : (∃ value, v.validate (some value) values = none) ↔
        ¬ (info.Demanded values ∧ info.HasNoRoom) := exists_accepted_iff h hv
    refine ⟨hiff, fun hnoRoom value hnone => hiff.mp ⟨value.getD .null, ?_⟩ hnoRoom⟩
    rwa [validate_getD_null]
  · rw [exists_conflicting_iff]
    have hiff := not_congr (FieldInfo.exists_obeying_iff h)
    push Not at hiff
    rw [hiff, ← not_exists, imp_iff_not_or, not_not]

end FieldValidator

namespace Comments

/-- A list of two or three remarks that must be given. -/
def remarks : FieldInfo where
  name := "remarks"
  kind := .array
  required := true
  rules := some { minItems := some 2, maxItems := some 3 }

/-- A text that must be given if anything is, but must be empty. -/
def nothing : FieldInfo where
  name := "nothing"
  kind := .textarea
  rules := some {
    required := some (.when (.check { field := "remarks", operator := .isNotEmpty }))
    maxLength := some 0 }

theorem isPlain_remarks : remarks.IsPlain where
  check := fun _ ⟨_, hrule, _⟩ => nomatch hrule
  kind_ne_email := by decide
  kind_ne_url := by decide
  pattern := rfl
  email := rfl

theorem isPlain_nothing : nothing.IsPlain where
  check := fun _ ⟨_, hrule, _⟩ => nomatch hrule
  kind_ne_email := by decide
  kind_ne_url := by decide
  pattern := rfl
  email := rfl

/-- Remarks can be given; and once they are, nothing can be given for what must be empty. -/
theorem nothing_left_to_give : remarks.IsPlain ∧ nothing.IsPlain
    ∧ (∃ v, FieldValidator.compile [] remarks = .ok v
      ∧ ∀ values, ∃ value, v.validate (some value) values = none)
    ∧ ∃ v, FieldValidator.compile [] nothing = .ok v
      ∧ ∀ value, v.validate value (.object [("remarks", .array [.null])]) ≠ none := by
  obtain ⟨v, hv⟩ : ∃ v, FieldValidator.compile [] remarks = .ok v := ⟨_, rfl⟩
  obtain ⟨w, hw⟩ : ∃ w, FieldValidator.compile [] nothing = .ok w := ⟨_, rfl⟩
  have hroom : ¬ remarks.HasNoRoom := by
    rintro (⟨hk, -⟩ | ⟨-, hzero⟩)
    · cases hk
    · cases hzero
  have hdemanded : nothing.Demanded (.object [("remarks", .array [.null])]) :=
    Or.inr ⟨_, rfl, by decide⟩
  refine ⟨isPlain_remarks, isPlain_nothing, ⟨v, hv, fun values => ?_⟩, w, hw, ?_⟩
  · exact ((FieldValidator.fillable_iff isPlain_remarks).1 v values hv).1.mpr
      fun hnot => hroom hnot.2
  · exact ((FieldValidator.fillable_iff isPlain_nothing).1 w _ hw).2
      ⟨hdemanded, Or.inl ⟨rfl, rfl⟩⟩

end Comments
end FormLogic
