/-
  FormLogic.Proofs.Validation.Defects

  What can be wrong with a form.

  What can be wrong with a field is read off its description and the names
  before it in its scope (`Occurrence.HasDefect`).  Of several defects the
  one of the lowest rank is reported.  A form is well-formed where every
  scope of it is in order, which is where nothing is wrong with any field.

  Which texts are patterns is up to the reader, and so is the reason that it
  gives for refusing one.  A field that is held to the rule for e-mail
  addresses has a second pattern, which is not its own; a reader that accepts
  it refuses fields for their own pattern only.

    * `FieldValidator.compile_eq_error_iff` — what the rules of a field are
      refused for.
    * `FieldValidator.refuses_iff_of_read` — the same, for readers of the
      pattern of addresses.
    * `Occurrence.reports_iff` — what is reported of a field.
    * `Form.wellFormed_iff` — well-formed forms by their fields.
-/

import Mathlib.Order.WellFounded
import FormLogic.Validation.Field
import FormLogic.Proofs.Validation.Occurrences
import FormLogic.Proofs.Except

namespace FormLogic

/-! ## What can be wrong -/

/-- A pair of bounds that a field looks at is in conflict: the lower one is above the upper one. -/
inductive FieldInfo.Conflict (info : FieldInfo) : BoundPair → Prop
  | length {low high : Nat} :
      info.kind.isTextual = true → info.ruleSet.minLength = some low →
      info.ruleSet.maxLength = some high → high < low → Conflict info .length
  | range {low high : Double} :
      info.kind = .number → info.ruleSet.min = some low → info.ruleSet.max = some high →
      high.lt low = true → Conflict info .range
  | items {low high : Nat} :
      info.kind = .array → info.ruleSet.minItems = some low →
      info.ruleSet.maxItems = some high → high < low → Conflict info .items

section Defects

variable [PatternReader]

/-- A field for texts has a pattern that the reader refuses for a reason. -/
def FieldInfo.HasBadPattern (info : FieldInfo) (reason : String) : Prop :=
  info.kind.isTextual = true
    ∧ ∃ text, info.ruleSet.pattern = some text ∧ PatternReader.read text = .error reason

/-- A field for texts is held to the rule for e-mail addresses, whose pattern the reader refuses for
a reason. -/
def FieldInfo.HasBadAddress (info : FieldInfo) (reason : String) : Prop :=
  info.kind.isTextual = true
    ∧ (info.ruleSet.email = true ∨ info.kind = .email)
    ∧ PatternReader.read FieldValidator.emailPattern = .error reason

namespace Occurrence

/-- The path of a field: the segments that lead to its scope, and its name. -/
def path (o : Occurrence) : String := Path.ofSegments (o.around ++ [o.field.info.name])

/-- What is wrong with a field: it has the name of a field before it in its scope, bounds in
conflict, a pattern that is refused, or entries without a template. -/
inductive HasDefect (o : Occurrence) : Defect → Prop
  | name : o.field.info.name ∈ o.before.map (·.info.name) → HasDefect o (.duplicateField o.path)
  | bounds {pair : BoundPair} :
      o.field.info.Conflict pair → HasDefect o (.conflictingBounds o.field.info.name pair)
  | pattern {reason : String} :
      o.field.info.HasBadPattern reason → HasDefect o (.invalidPattern o.field.info.name reason)
  | template :
      o.field.info.kind = .array → o.field.itemSchema = none →
      HasDefect o (.missingItemSchema o.path)

/-- There is nothing wrong with a field. -/
def IsSound (o : Occurrence) : Prop := ∀ d, ¬ o.HasDefect d

end Occurrence

/-- The rank of a defect among those of one field: names, then bounds, then patterns, then
templates. -/
def Defect.rank : Defect → Nat
  | .duplicateField _ => 0
  | .conflictingBounds _ _ => 1
  | .invalidPattern _ _ => 2
  | .missingItemSchema _ => 3

/-- A field reports, of what is wrong with it, the defect of the lowest rank. -/
def Occurrence.Reports (o : Occurrence) (d : Defect) : Prop :=
  o.HasDefect d ∧ ∀ e, o.HasDefect e → d.rank ≤ e.rank

/-- The description of a field is in order: a list has a template, bounds that the kind looks at do
not conflict, and a pattern that it looks at can be read. -/
structure Field.InOrder (f : Field) : Prop where
  template : f.info.kind = .array → ∃ items, f.itemSchema = some items
  length : f.info.kind.isTextual = true →
    ∀ low high, f.info.ruleSet.minLength = some low → f.info.ruleSet.maxLength = some high →
      low ≤ high
  pattern : f.info.kind.isTextual = true →
    ∀ text, f.info.ruleSet.pattern = some text → ∃ p, PatternReader.read text = .ok p
  range : f.info.kind = .number →
    ∀ low high, f.info.ruleSet.min = some low → f.info.ruleSet.max = some high →
      high.lt low = false
  items : f.info.kind = .array →
    ∀ low high, f.info.ruleSet.minItems = some low → f.info.ruleSet.maxItems = some high →
      low ≤ high

/-- The fields of a scope are in order: each is, and their names are distinct. -/
structure ScopeInOrder (fields : List Field) : Prop where
  names : (fields.map (·.info.name)).Nodup
  fields : ∀ f ∈ fields, f.InOrder

/-- Every scope of a form is in order. -/
def Form.WellFormed (form : Form) : Prop :=
  ∀ around fields, form.HasScope around fields → ScopeInOrder fields

end Defects

/-! ## The rules of a field -/

namespace FieldValidator

variable {overrides : MessageOverrides} {info : FieldInfo} {d : Defect}

/-- Bounds are refused where both are given and the lower one exceeds the upper one. -/
theorem ensureOrdered_eq_error_iff {α : Type} {exceeds : α → α → Bool} {pair : BoundPair}
    {lower upper : Option α} :
    ensureOrdered exceeds info pair lower upper = .error d ↔
      (∃ l u, lower = some l ∧ upper = some u ∧ exceeds l u = true)
        ∧ d = .conflictingBounds info.name pair := by
  cases lower with
  | none => simp [ensureOrdered]
  | some l =>
    cases upper with
    | none => simp [ensureOrdered]
    | some u =>
      by_cases h : exceeds l u = true
      · simp only [ensureOrdered, h, if_true, Except.error.injEq, Option.some.injEq,
          exists_and_left, exists_eq_left', true_and]
        exact eq_comm
      · simp [ensureOrdered, h]

/-- The bounds of a text are refused where they are in conflict. -/
theorem ensureOrdered_length_eq_error_iff (hk : info.kind.isTextual = true) :
    ensureOrdered (fun a b => decide (a > b)) info .length info.ruleSet.minLength
        info.ruleSet.maxLength = .error d ↔
      ∃ pair, info.Conflict pair ∧ d = .conflictingBounds info.name pair := by
  rw [ensureOrdered_eq_error_iff]
  constructor
  · rintro ⟨⟨low, high, hlow, hhigh, hlt⟩, rfl⟩
    exact ⟨.length, .length hk hlow hhigh (of_decide_eq_true hlt), rfl⟩
  · rintro ⟨pair, hconflict, rfl⟩
    -- other pairs belong to other kinds of fields
    cases hconflict with
    | length _ hlow hhigh hlt => exact ⟨⟨_, _, hlow, hhigh, decide_eq_true hlt⟩, rfl⟩
    | range hk' _ _ _ => simp [hk', FieldKind.isTextual] at hk
    | items hk' _ _ _ => simp [hk', FieldKind.isTextual] at hk

/-- The bounds of a number are refused where they are in conflict. -/
theorem ensureOrdered_range_eq_error_iff (hk : info.kind = .number) :
    ensureOrdered (fun a b => b.lt a) info .range info.ruleSet.min info.ruleSet.max = .error d ↔
      ∃ pair, info.Conflict pair ∧ d = .conflictingBounds info.name pair := by
  rw [ensureOrdered_eq_error_iff]
  constructor
  · rintro ⟨⟨low, high, hlow, hhigh, hlt⟩, rfl⟩
    exact ⟨.range, .range hk hlow hhigh hlt, rfl⟩
  · rintro ⟨pair, hconflict, rfl⟩
    cases hconflict with
    | length hk' _ _ _ => simp [hk, FieldKind.isTextual] at hk'
    | range _ hlow hhigh hlt => exact ⟨⟨_, _, hlow, hhigh, hlt⟩, rfl⟩
    | items hk' _ _ _ => simp [hk] at hk'

/-- The bounds of a list are refused where they are in conflict. -/
theorem ensureOrdered_items_eq_error_iff (hk : info.kind = .array) :
    ensureOrdered (fun a b => decide (a > b)) info .items info.ruleSet.minItems
        info.ruleSet.maxItems = .error d ↔
      ∃ pair, info.Conflict pair ∧ d = .conflictingBounds info.name pair := by
  rw [ensureOrdered_eq_error_iff]
  constructor
  · rintro ⟨⟨low, high, hlow, hhigh, hlt⟩, rfl⟩
    exact ⟨.items, .items hk hlow hhigh (of_decide_eq_true hlt), rfl⟩
  · rintro ⟨pair, hconflict, rfl⟩
    cases hconflict with
    | length hk' _ _ _ => simp [hk, FieldKind.isTextual] at hk'
    | range hk' _ _ _ => simp [hk] at hk'
    | items _ hlow hhigh hlt => exact ⟨⟨_, _, hlow, hhigh, decide_eq_true hlt⟩, rfl⟩

section Reader

variable [PatternReader]

/-- A pattern is refused where the reader refuses it, and for its reason. -/
theorem patternCheck_eq_error_iff {demand : Pattern → Demand} {key : RuleKey}
    {source : Option String} :
    patternCheck overrides info demand key source = .error d ↔
      ∃ reason, (∃ text, source = some text ∧ PatternReader.read text = .error reason)
        ∧ d = .invalidPattern info.name reason := by
  cases source with
  | none => simp [patternCheck]
  | some text => cases h : PatternReader.read text <;> simp [patternCheck, h, eq_comm]

/-- The pattern of e-mail addresses is refused where a field is held to it and the reader refuses
it. -/
theorem addressCheck_eq_error_iff (hk : info.kind.isTextual = true) :
    patternCheck overrides info .email .email
        (if info.ruleSet.email || info.kind = .email then some emailPattern else none) = .error d ↔
      ∃ reason, info.HasBadAddress reason ∧ d = .invalidPattern info.name reason := by
  rw [patternCheck_eq_error_iff]
  refine exists_congr fun reason => and_congr_left fun _ => ?_
  by_cases hasked : info.ruleSet.email = true ∨ info.kind = .email
  · simp [FieldInfo.HasBadAddress, hk, hasked]
  · simp [FieldInfo.HasBadAddress, hasked]

/-- What is wrong with the rules of a field: bounds in conflict; or, where there are none, a pattern
that is refused; or, where there is none either, the pattern of addresses. -/
def Refuses (info : FieldInfo) (d : Defect) : Prop :=
  (∃ pair, info.Conflict pair ∧ d = .conflictingBounds info.name pair)
    ∨ (∀ pair, ¬ info.Conflict pair) ∧
      ((∃ reason, info.HasBadPattern reason ∧ d = .invalidPattern info.name reason)
        ∨ (∀ reason, ¬ info.HasBadPattern reason)
          ∧ ∃ reason, info.HasBadAddress reason ∧ d = .invalidPattern info.name reason)

/-- The rules of a text are refused for their bounds or for a pattern. -/
theorem textChecks_eq_error_iff (hk : info.kind.isTextual = true) :
    textChecks overrides info = .error d ↔ Refuses info d := by
  have hbounds := fun e => ensureOrdered_length_eq_error_iff (d := e) hk
  have hpattern : ∀ e, patternCheck overrides info .pattern .pattern info.ruleSet.pattern
      = .error e ↔ ∃ reason, info.HasBadPattern reason ∧ e = .invalidPattern info.name reason := by
    intro e
    rw [patternCheck_eq_error_iff]
    exact exists_congr fun reason => and_congr_left fun _ => (and_iff_right hk).symm
  -- the three checks fail in turn, and behind them nothing is refused any more
  refine Except.bind_eq_error_in_turn hbounds fun _ =>
    Except.bind_eq_error_in_turn hpattern fun _ => ?_
  exact (Except.bind_eq_error_of_ok fun _ => ⟨_, rfl⟩).trans (addressCheck_eq_error_iff hk)

/-- The rules of a field without pattern are refused for their bounds alone. -/
theorem refuses_iff_of_not_textual (hk : info.kind.isTextual = false) :
    Refuses info d ↔ ∃ pair, info.Conflict pair ∧ d = .conflictingBounds info.name pair := by
  constructor
  · rintro (hconflict | ⟨-, ⟨reason, hbad, -⟩ | ⟨-, reason, hbad, -⟩⟩)
    · exact hconflict
    · cases hk.symm.trans hbad.1
    · cases hk.symm.trans hbad.1
  · exact Or.inl

theorem numberChecks_eq_error_iff (hk : info.kind = .number) :
    numberChecks overrides info = .error d ↔ Refuses info d := by
  rw [refuses_iff_of_not_textual (by rw [hk]; rfl), ← ensureOrdered_range_eq_error_iff hk]
  exact Except.bind_eq_error_of_ok fun _ => ⟨_, rfl⟩

theorem listChecks_eq_error_iff (hk : info.kind = .array) :
    listChecks overrides info = .error d ↔ Refuses info d := by
  rw [refuses_iff_of_not_textual (by rw [hk]; rfl), ← ensureOrdered_items_eq_error_iff hk]
  exact Except.bind_eq_error_of_ok fun _ => ⟨_, rfl⟩

/-- A field without bounds and pattern is not refused. -/
theorem not_refuses (htext : info.kind.isTextual = false) (hnumber : info.kind ≠ .number)
    (harray : info.kind ≠ .array) : ¬ Refuses info d := by
  rw [refuses_iff_of_not_textual htext]
  rintro ⟨pair, hconflict, -⟩
  cases hconflict with
  | length hk _ _ _ => simp [htext] at hk
  | range hk _ _ _ => exact hnumber hk
  | items hk _ _ _ => exact harray hk

/-- The rules of a field are refused for what is wrong with them, whatever its kind. -/
theorem checksOf_eq_error_iff : checksOf overrides info = .error d ↔ Refuses info d := by
  rw [checksOf]
  cases hk : info.kind
  case text | email | password | url | tel | textarea | hidden =>
    exact textChecks_eq_error_iff (by rw [hk]; rfl)
  case number => exact numberChecks_eq_error_iff hk
  case array => exact listChecks_eq_error_iff hk
  all_goals
    refine iff_of_false (by simp) (not_refuses ?_ ?_ ?_) <;> simp [hk, FieldKind.isTextual]

/-- The validator of a field is refused for what is wrong with the rules of the field. -/
theorem compile_eq_error_iff : compile overrides info = .error d ↔ Refuses info d := by
  rw [← @checksOf_eq_error_iff overrides]
  exact Except.bind_eq_error_of_ok fun _ => ⟨_, rfl⟩

theorem not_refuses_iff :
    (∀ d, ¬ Refuses info d) ↔ (∀ pair, ¬ info.Conflict pair)
      ∧ (∀ reason, ¬ info.HasBadPattern reason) ∧ ∀ reason, ¬ info.HasBadAddress reason := by
  constructor
  · intro h
    have hordered : ∀ pair, ¬ info.Conflict pair := fun pair hconflict =>
      h _ (Or.inl ⟨pair, hconflict, rfl⟩)
    have hgood : ∀ reason, ¬ info.HasBadPattern reason := fun reason hbad =>
      h _ (Or.inr ⟨hordered, Or.inl ⟨reason, hbad, rfl⟩⟩)
    exact ⟨hordered, hgood, fun reason hbad =>
      h _ (Or.inr ⟨hordered, Or.inr ⟨hgood, reason, hbad, rfl⟩⟩)⟩
  · rintro ⟨hordered, hpattern, haddress⟩ d
      (⟨pair, hconflict, -⟩ | ⟨-, ⟨reason, hbad, -⟩ | ⟨-, reason, hbad, -⟩⟩)
    · exact hordered pair hconflict
    · exact hpattern reason hbad
    · exact haddress reason hbad

section Addresses

variable (haddress : ∃ p, PatternReader.read emailPattern = .ok p)
include haddress

theorem not_hasBadAddress (reason : String) : ¬ info.HasBadAddress reason := by
  obtain ⟨p, hp⟩ := haddress
  rintro ⟨-, -, herror⟩
  cases hp.symm.trans herror

/-- If the pattern of addresses is read, fields are refused for their own rules. -/
theorem refuses_iff_of_read : Refuses info d ↔
    (∃ pair, info.Conflict pair ∧ d = .conflictingBounds info.name pair)
      ∨ (∀ pair, ¬ info.Conflict pair)
        ∧ ∃ reason, info.HasBadPattern reason ∧ d = .invalidPattern info.name reason := by
  simp [Refuses, not_hasBadAddress haddress]

theorem not_refuses_iff_of_read : (∀ d, ¬ Refuses info d) ↔
    (∀ pair, ¬ info.Conflict pair) ∧ ∀ reason, ¬ info.HasBadPattern reason := by
  simp [not_refuses_iff, not_hasBadAddress haddress]

end Addresses

end Reader

end FieldValidator

/-! ## The defect of the lowest rank -/

namespace Occurrence

variable [PatternReader] {o : Occurrence} {d : Defect}

/-- A field with a name of its own has no defect of the lowest rank. -/
theorem HasDefect.rank_pos (hname : o.field.info.name ∉ o.before.map (·.info.name))
    (h : o.HasDefect d) : 0 < d.rank := by
  cases h with
  | name hmem => exact absurd hmem hname
  | _ => simp [Defect.rank]

theorem HasDefect.one_lt_rank (hname : o.field.info.name ∉ o.before.map (·.info.name))
    (hordered : ∀ pair, ¬ o.field.info.Conflict pair) (h : o.HasDefect d) : 1 < d.rank := by
  cases h with
  | name hmem => exact absurd hmem hname
  | bounds hconflict => exact absurd hconflict (hordered _)
  | _ => simp [Defect.rank]

theorem HasDefect.two_lt_rank (hname : o.field.info.name ∉ o.before.map (·.info.name))
    (hordered : ∀ pair, ¬ o.field.info.Conflict pair)
    (hpattern : ∀ reason, ¬ o.field.info.HasBadPattern reason) (h : o.HasDefect d) :
    2 < d.rank := by
  cases h with
  | name hmem => exact absurd hmem hname
  | bounds hconflict => exact absurd hconflict (hordered _)
  | pattern hbad => exact absurd hbad (hpattern _)
  | template _ _ => exact Nat.lt_succ_self 2

/-- A field with which something is wrong reports something. -/
theorem exists_reports (h : ¬ o.IsSound) : ∃ d, o.Reports d := by
  obtain ⟨d, hd⟩ : ∃ d, o.HasDefect d := by simpa [IsSound] using h
  obtain ⟨least, hleast, hmin⟩ :=
    (measure Defect.rank).wf.has_min {e | o.HasDefect e} ⟨d, hd⟩
  exact ⟨least, hleast, fun e he => not_lt.mp (hmin e he)⟩

end Occurrence

/-! ## Soundness -/

section Soundness

variable [PatternReader] (haddress : ∃ p, PatternReader.read FieldValidator.emailPattern = .ok p)
include haddress

/-- A field is in order where its rules are not refused and a list has a template. -/
theorem Field.inOrder_iff {f : Field} :
    f.InOrder ↔ (∀ d, ¬ FieldValidator.Refuses f.info d)
      ∧ ¬ (f.info.kind = .array ∧ f.itemSchema = none) := by
  rw [FieldValidator.not_refuses_iff_of_read haddress]
  constructor
  · intro h
    refine ⟨⟨fun pair hconflict => ?_, ?_⟩, ?_⟩
    · cases hconflict with
      | length hk hlow hhigh hlt => exact absurd (h.length hk _ _ hlow hhigh) (not_le.mpr hlt)
      | range hk hlow hhigh hlt => simp [h.range hk _ _ hlow hhigh] at hlt
      | items hk hlow hhigh hlt => exact absurd (h.items hk _ _ hlow hhigh) (not_le.mpr hlt)
    · rintro reason ⟨hk, text, htext, herror⟩
      obtain ⟨p, hp⟩ := h.pattern hk text htext
      cases hp.symm.trans herror
    · rintro ⟨hk, hnone⟩
      obtain ⟨items, hitems⟩ := h.template hk
      rw [hitems] at hnone
      cases hnone
  · rintro ⟨⟨hordered, hpattern⟩, htemplate⟩
    refine ⟨fun hk => ?_, fun hk low high hlow hhigh => ?_, fun hk text htext => ?_,
      fun hk low high hlow hhigh => ?_, fun hk low high hlow hhigh => ?_⟩
    · exact Option.ne_none_iff_exists'.mp fun hnone => htemplate ⟨hk, hnone⟩
    · exact not_lt.mp fun hlt => hordered _ (.length hk hlow hhigh hlt)
    · exact Except.exists_ok_iff.mpr fun reason herror => hpattern reason ⟨hk, text, htext, herror⟩
    · exact Bool.eq_false_iff.mpr fun hlt => hordered _ (.range hk hlow hhigh hlt)
    · exact not_lt.mp fun hlt => hordered _ (.items hk hlow hhigh hlt)

namespace Occurrence

variable {o : Occurrence} {d : Defect}

/-- There is nothing wrong with a field that has a name of its own and is in order. -/
theorem isSound_iff :
    o.IsSound ↔ o.field.info.name ∉ o.before.map (·.info.name) ∧ o.field.InOrder := by
  rw [Field.inOrder_iff haddress, FieldValidator.not_refuses_iff_of_read haddress]
  constructor
  · intro h
    exact ⟨fun hname => h _ (.name hname), ⟨fun pair hconflict => h _ (.bounds hconflict),
      fun reason hbad => h _ (.pattern hbad)⟩, fun ⟨hk, hnone⟩ => h _ (.template hk hnone)⟩
  · rintro ⟨hname, ⟨hordered, hpattern⟩, htemplate⟩ d hd
    cases hd with
    | name hmem => exact hname hmem
    | bounds hconflict => exact hordered _ hconflict
    | pattern hbad => exact hpattern _ hbad
    | template hk hnone => exact htemplate ⟨hk, hnone⟩

/-- What a field reports: that its name is taken; else what its rules are refused for; else that
it has no template. -/
theorem reports_iff :
    o.Reports d ↔
      (o.field.info.name ∈ o.before.map (·.info.name) ∧ d = .duplicateField o.path)
      ∨ (o.field.info.name ∉ o.before.map (·.info.name)
        ∧ FieldValidator.Refuses o.field.info d)
      ∨ (o.field.info.name ∉ o.before.map (·.info.name)
        ∧ (∀ e, ¬ FieldValidator.Refuses o.field.info e)
        ∧ o.field.info.kind = .array ∧ o.field.itemSchema = none
        ∧ d = .missingItemSchema o.path) := by
  simp only [FieldValidator.not_refuses_iff_of_read haddress]
  simp only [FieldValidator.refuses_iff_of_read haddress]
  constructor
  · rintro ⟨hd, hleast⟩
    -- a defect of a lower rank would have been reported instead
    have hname : d.rank ≠ 0 → o.field.info.name ∉ o.before.map (·.info.name) :=
      fun hrank hmem => hrank (Nat.le_zero.mp (hleast _ (.name hmem)))
    have hbounds : 1 < d.rank → ∀ pair, ¬ o.field.info.Conflict pair :=
      fun hrank pair hconflict => absurd (hleast _ (.bounds hconflict)) (not_le.mpr hrank)
    have hpattern : 2 < d.rank → ∀ reason, ¬ o.field.info.HasBadPattern reason :=
      fun hrank reason hbad => absurd (hleast _ (.pattern hbad)) (not_le.mpr hrank)
    cases hd with
    | name hmem => exact Or.inl ⟨hmem, rfl⟩
    | bounds hconflict =>
      exact Or.inr (Or.inl ⟨hname (by simp [Defect.rank]), Or.inl ⟨_, hconflict, rfl⟩⟩)
    | pattern hbad =>
      exact Or.inr (Or.inl ⟨hname (by simp [Defect.rank]),
        Or.inr ⟨hbounds (by simp [Defect.rank]), _, hbad, rfl⟩⟩)
    | template hk hnone =>
      exact Or.inr (Or.inr ⟨hname (by simp [Defect.rank]),
        ⟨hbounds (by simp [Defect.rank]), hpattern (by simp [Defect.rank])⟩, hk, hnone, rfl⟩)
  · rintro (⟨hmem, rfl⟩ | ⟨hname, ⟨pair, hconflict, rfl⟩ | ⟨hordered, reason, hbad, rfl⟩⟩
      | ⟨hname, ⟨hordered, hpattern⟩, hk, hnone, rfl⟩)
    · exact ⟨.name hmem, fun e _ => Nat.zero_le e.rank⟩
    · exact ⟨.bounds hconflict, fun e he => he.rank_pos hname⟩
    · exact ⟨.pattern hbad, fun e he => he.one_lt_rank hname hordered⟩
    · exact ⟨.template hk hnone, fun e he => he.two_lt_rank hname hordered hpattern⟩

end Occurrence

/-- A form is well-formed where there is nothing wrong with any of its fields. -/
theorem Form.wellFormed_iff {form : Form} :
    form.WellFormed ↔ ∀ o ∈ form.occurrences, o.IsSound := by
  constructor
  · intro h o ho
    obtain ⟨back, hscope⟩ := Form.mem_occurrences_iff.mp ho
    obtain ⟨hnames, hfields⟩ := h _ _ hscope
    rw [Occurrence.isSound_iff haddress]
    exact ⟨nodup_names_iff.mp hnames _ _ _ rfl, hfields _ (by simp)⟩
  · intro h around fields hscope
    have hsound : ∀ before f after, fields = before ++ f :: after →
        (Occurrence.mk around before f).IsSound := by
      rintro before f after rfl
      exact h _ (Form.mem_occurrences_iff.mpr ⟨after, hscope⟩)
    constructor
    · exact nodup_names_iff.mpr fun before f after hsplit =>
        ((Occurrence.isSound_iff haddress).mp (hsound before f after hsplit)).1
    · intro f hf
      obtain ⟨before, after, hsplit⟩ := List.append_of_mem hf
      exact ((Occurrence.isSound_iff haddress).mp (hsound before f after hsplit)).2

end Soundness

end FormLogic
