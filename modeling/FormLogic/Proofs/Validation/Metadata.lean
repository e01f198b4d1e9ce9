/-
  FormLogic.Proofs.Validation.Metadata

  What describes a form, and what words its messages, has no part in what is
  valid.

  Of a field two things can be left out: what it is described with, and then
  also what its messages are worded by, its label and its templates.  Of a
  validator it is the dependencies, and then also the texts of the messages.
  A form compiles alike without the one up to the other, so that two forms
  that differ in nothing else accept the same documents.

    * `Strips.worded`, `Strips.bare` — what is left out changes validators in
      what is left out of them, and nothing else.
    * `Form.exists_compile` — templates of messages do not decide what
      compiles.
    * `Form.validity_of_strip_eq` — two forms that differ in these alone.
-/

import FormLogic.Pattern.Parser
import FormLogic.Proofs.Validation.Strip
import FormLogic.Proofs.Validation.Rules

namespace FormLogic

/-! ## What is left out -/

/-- A check without its identity: what it does. -/
def CustomCheck.anonymous (check : CustomCheck) : CustomCheck := { check with identity := 0 }

/-- A custom rule without its dependencies: what its check does. -/
def CustomRule.bare (rule : CustomRule) : CustomRule where
  dependencies := []
  check := rule.check.map CustomCheck.anonymous

/-- A field without what it is described with. -/
def FieldInfo.worded (info : FieldInfo) : FieldInfo :=
  { info with
    description := none
    placeholder := none
    defaultValue := none
    options := []
    extras := []
    rules := info.rules.map fun r => { r with custom := r.custom.map CustomRule.bare } }

/-- A field without what it is described with and what its messages are worded by. -/
def FieldInfo.bare (info : FieldInfo) : FieldInfo :=
  { info.worded with
    label := none
    messages := [] }

/-- A check without its message. -/
def Check.bare (check : Check) : Check := { check with message := "" }

/-- A custom step that runs the check without its identity. -/
def CustomStep.anonymous (step : CustomStep) : CustomStep :=
  { step with check := step.check.anonymous }

/-- A custom step that runs the check without its identity and has no message. -/
def CustomStep.bare (step : CustomStep) : CustomStep := { step.anonymous with message := "" }

namespace FieldValidator

/-- A validator without its dependencies. -/
def worded (v : FieldValidator) : FieldValidator :=
  { v with
    dependencies := []
    custom := v.custom.map CustomStep.anonymous }

/-- A validator without its dependencies and the texts of its messages. -/
def bare (v : FieldValidator) : FieldValidator :=
  { v.worded with
    checks := v.checks.map Check.bare
    requiredMessage := ""
    custom := v.custom.map CustomStep.bare }

end FieldValidator

/-! ## Fields -/

namespace FieldInfo

variable {overrides overrides' : MessageOverrides} {a b : FieldInfo}

theorem sameDemands_worded (info : FieldInfo) : info.SameDemands info.worded where
  name := rfl
  kind := rfl
  required := rfl
  rules := by
    rw [ruleSet, ruleSet, worded]
    cases info.rules <;> rfl

theorem sameDemands_bare (info : FieldInfo) : info.SameDemands info.bare where
  name := rfl
  kind := rfl
  required := rfl
  rules := info.sameDemands_worded.rules

theorem keepsOutline_worded : KeepsOutline worded :=
  ⟨fun _ => rfl, fun _ => rfl, fun _ => rfl, fun _ _ => rfl⟩

theorem keepsOutline_bare : KeepsOutline bare :=
  ⟨fun _ => rfl, fun _ => rfl, fun _ => rfl, fun _ _ => rfl⟩

/-- The attached check is left but for its identity. -/
theorem check_worded (info : FieldInfo) :
    info.worded.custom.bind (·.check)
      = (info.custom.bind (·.check)).map CustomCheck.anonymous := by
  rw [custom, custom, worded]
  cases info.rules with
  | none => rfl
  | some r => cases hcustom : r.custom <;> simp [hcustom, CustomRule.bare]

variable [PatternReader]

/-- Fields with the same demands and the same wording have the same checks. -/
theorem SameDemands.checks (h : a.SameDemands b) (hlabel : a.label = b.label)
    (hmessages : a.messages = b.messages) (keys : List RuleKey) :
    FieldInfo.checks overrides a keys = FieldInfo.checks overrides b keys := by
  simp only [FieldInfo.checks, check?, h.demand?, h.ruleMessage hlabel hmessages]

/-- Fields with the same demands have the same checks but for the messages. -/
theorem SameDemands.checks_bare (h : a.SameDemands b) (keys : List RuleKey) :
    (FieldInfo.checks overrides a keys).map Check.bare
      = (FieldInfo.checks overrides' b keys).map Check.bare := by
  rw [FieldInfo.checks, FieldInfo.checks, List.map_flatMap, List.map_flatMap]
  refine List.flatMap_congr fun key _ => ?_
  rw [check?, check?, h.demand?]
  cases b.demand? key <;> rfl

end FieldInfo

/-! ## Validators -/

namespace FieldValidator

variable {v : FieldValidator} {value : Option Json} {values : Json}

theorem validate_worded : v.worded.validate value values = v.validate value values := by
  have hcustom : ∀ w, v.worded.custom.bind (fun step => customMessage? step w values)
      = v.custom.bind fun step => customMessage? step w values := by
    intro w
    rw [worded, Option.bind_map]
    rfl
  rw [validate, validate]
  simp only [hcustom]
  rfl

/-- Without messages the first check that fails is the same. -/
theorem isSome_firstViolation?_bare (checks : List Check) (w : Json) :
    (Check.firstViolation? (checks.map Check.bare) w).isSome
      = (Check.firstViolation? checks w).isSome := by
  induction checks with
  | nil => rfl
  | cons c cs ih =>
    rw [Check.firstViolation?, Check.firstViolation?] at ih ⊢
    rw [List.map_cons, List.findSome?_cons, List.findSome?_cons, Check.violation?,
      Check.violation?, Check.bare]
    cases c.demand.holds w
    · rfl
    · exact ih

/-- Without its message a custom check finds the same values invalid. -/
theorem isSome_customMessage?_bare (step : CustomStep) (w : Json) :
    (customMessage? step.bare w values).isSome = (customMessage? step w values).isSome := by
  have hrun : step.bare.check.run = step.check.run := rfl
  rw [customMessage?, customMessage?, hrun]
  rcases step.check.run w values with e | (_ | message) <;> rfl

/-- There is a message where a demanded value is missing, where a check fails, and where the custom
check does. -/
theorem isSome_validate :
    (v.validate value values).isSome
      = ((Condition.isEmpty value && v.isRequired values)
        || (v.checkMessage? (value.getD .null)).isSome
        || (v.custom.bind fun step => customMessage? step (value.getD .null) values).isSome) := by
  rw [validate]
  cases Condition.isEmpty value && v.isRequired values
  · cases hcheck : v.checkMessage? (value.getD .null) <;> simp [hcheck]
  · rfl

/-- Without the texts of messages there is a message for the same values. -/
theorem isSome_validate_bare :
    (v.bare.validate value values).isSome = (v.validate value values).isSome := by
  have hrequired : v.bare.isRequired values = v.isRequired values := rfl
  have hchecks : ∀ w, (v.bare.checkMessage? w).isSome = (v.checkMessage? w).isSome := by
    intro w
    rw [checkMessage?, checkMessage?]
    split
    · rfl
    · exact isSome_firstViolation?_bare v.checks w
  have hcustom : ∀ w, (v.bare.custom.bind fun step => customMessage? step w values).isSome
      = (v.custom.bind fun step => customMessage? step w values).isSome := by
    intro w
    rw [bare, Option.bind_map]
    cases v.custom with
    | none => rfl
    | some step => exact isSome_customMessage?_bare step w
  rw [isSome_validate, isSome_validate, hrequired, hchecks, hcustom]

end FieldValidator

/-! ## Compiling -/

variable {overrides overrides' : MessageOverrides}

/-- Without its description a field has the same custom step but for the identity of the check. -/
theorem FieldValidator.customStep_worded (info : FieldInfo) :
    (customStep overrides info).map CustomStep.anonymous
      = (customStep overrides info.worded).map CustomStep.anonymous := by
  have hmessage : Message.resolve overrides .custom info []
      = Message.resolve overrides .custom info.worded [] :=
    info.sameDemands_worded.ruleMessage rfl rfl overrides .custom
  rw [customStep, customStep, info.check_worded, Option.map_map, Option.map_map, Option.map_map,
    hmessage]
  rfl

/-- Without its wording either it has the same one but for the message. -/
theorem FieldValidator.customStep_bare (info : FieldInfo) :
    (customStep overrides info).map CustomStep.bare
      = (customStep overrides' info.bare).map CustomStep.bare := by
  have hcheck : info.bare.custom = info.worded.custom := rfl
  rw [customStep, customStep, hcheck, info.check_worded, Option.map_map, Option.map_map,
    Option.map_map]
  rfl

section Reader

variable [PatternReader]

/-- Without its description a field has the same validator but for the dependencies. -/
theorem Strips.worded (overrides : MessageOverrides) :
    Strips overrides overrides FieldInfo.worded FieldValidator.worded where
  toKeepsOutline := FieldInfo.keepsOutline_worded
  validatorName := fun _ => rfl
  compile := by
    intro info
    have h := info.sameDemands_worded
    refine h.map_compile fun v w hv hw => ?_
    rw [FieldValidator.compile_eq_ok hv, FieldValidator.compile_eq_ok hw]
    simp only [FieldValidator.worded, FieldValidator.mk.injEq, and_true]
    exact ⟨h.name, h.kind, h.kind ▸ h.checks rfl rfl _, h.required,
      h.rule (·.required) fun _ => rfl, h.ruleMessage rfl rfl overrides .required,
      FieldValidator.customStep_worded info⟩

/-- Without its description and its wording a field has the same validator but for the dependencies
and the messages, whatever the templates are. -/
theorem Strips.bare (overrides overrides' : MessageOverrides) :
    Strips overrides overrides' FieldInfo.bare FieldValidator.bare where
  toKeepsOutline := FieldInfo.keepsOutline_bare
  validatorName := fun _ => rfl
  compile := by
    intro info
    have h := info.sameDemands_bare
    refine h.map_compile fun v w hv hw => ?_
    rw [FieldValidator.compile_eq_ok hv, FieldValidator.compile_eq_ok hw]
    simp only [FieldValidator.bare, FieldValidator.worded, FieldValidator.mk.injEq, and_true,
      true_and]
    exact ⟨h.name, h.kind, h.kind ▸ h.checks_bare _, h.required,
      h.rule (·.required) fun _ => rfl, FieldValidator.customStep_bare info⟩

/-- With any templates of messages a form compiles alike up to what templates are for. -/
theorem Form.compile_bare (form : Form) (overrides overrides' : MessageOverrides) :
    (form.compile overrides).map (FormValidator.map FieldValidator.bare)
      = (form.compile overrides').map (FormValidator.map FieldValidator.bare) :=
  Form.compile_of_strip_eq (Strips.bare overrides []) (Strips.bare overrides' []) rfl

/-- What compiles does so with any templates of messages. -/
theorem Form.exists_compile {form : Form} {v : FormValidator}
    (h : form.compile overrides = .ok v) (overrides' : MessageOverrides) :
    ∃ v', form.compile overrides' = .ok v' := by
  have hmap := form.compile_bare overrides overrides'
  rw [h] at hmap
  obtain ⟨v', hv', -⟩ := Except.map_eq_ok.mp hmap.symm
  exact ⟨v', hv'⟩

end Reader

/-! ## Messages -/

namespace FormValidator

variable {k : FieldValidator → FieldValidator} {v v' : FormValidator} {values : Json}

/-- Validators with messages for the same values have them under the same paths. -/
theorem names_errorsOf_map (hsome : ∀ w value, ((k w).validate value values).isSome
      = (w.validate value values).isSome) (visits : List Visit) :
    (errorsOf (visits.map (Visit.map k)) values).names = (errorsOf visits values).names := by
  refine Dict.names_ofList_congr ?_
  induction visits with
  | nil => rfl
  | cons visit visits ih =>
    have hvisit := hsome visit.validator visit.value
    rw [List.map_cons, List.filterMap_cons, List.filterMap_cons, Visit.finding?, Visit.finding?,
      Visit.map]
    cases hm : visit.validator.validate visit.value values with
    | none =>
      rw [hm, Option.isSome_none, Option.isSome_eq_false_iff, Option.isNone_iff_eq_none] at hvisit
      simpa only [hvisit, Option.map_none] using ih
    | some m =>
      rw [hm, Option.isSome_some, Option.isSome_iff_exists] at hvisit
      obtain ⟨m', hm'⟩ := hvisit
      simpa only [hm', Option.map_some, Dict.names_cons, List.cons.injEq, true_and] using ih

/-- Validators with the same messages have them under the same paths. -/
theorem errorsOf_map (hsame : ∀ w value, (k w).validate value values = w.validate value values)
    (visits : List Visit) :
    errorsOf (visits.map (Visit.map k)) values = errorsOf visits values := by
  rw [errorsOf, errorsOf, List.filterMap_map]
  congr 2
  funext visit
  exact congrArg (Option.map fun message => (visit.path, message))
    (hsame visit.validator visit.value)

section

variable (hname : ∀ w, (k w).name = w.name) (h : v.map k = v'.map k)
include hname h

/-- Validators of two forms that are changed to the same ones have messages under the same paths,
if the change keeps which values have one. -/
theorem names_errorsOf_of_map_eq (hsome : ∀ w value, ((k w).validate value values).isSome
      = (w.validate value values).isSome) (visibleOnly : Bool) :
    (errorsOf (v.visits visibleOnly values) values).names
      = (errorsOf (v'.visits visibleOnly values) values).names := by
  rw [← names_errorsOf_map hsome, ← visits_map hname, h, visits_map hname,
    names_errorsOf_map hsome]

/-- And they have the same messages, if the change keeps these. -/
theorem errorsOf_of_map_eq
    (hsame : ∀ w value, (k w).validate value values = w.validate value values)
    (visibleOnly : Bool) :
    errorsOf (v.visits visibleOnly values) values
      = errorsOf (v'.visits visibleOnly values) values := by
  rw [← errorsOf_map hsame, ← visits_map hname, h, visits_map hname, errorsOf_map hsame]

/-- The field at a path is the same up to the change. -/
theorem locate_of_map_eq (segments : List String) :
    (locate v.nodes values segments).map (fun found => (k found.1, found.2))
      = (locate v'.nodes values segments).map fun found => (k found.1, found.2) := by
  rw [← locate_map hname, ← locate_map hname]
  exact congrArg (fun w : FormValidator => locate w.nodes values segments) h

theorem isSome_validateAt_of_map_eq (hsome : ∀ w value, ((k w).validate value values).isSome
      = (w.validate value values).isSome) (path : String) :
    (v.validateAt path values).isSome = (v'.validateAt path values).isSome := by
  have hrun : ∀ u : FormValidator, (u.validateAt path values).isSome
      = (((locate u.nodes values (Path.segments path)).map fun found => (k found.1, found.2)).bind
        fun found => found.1.validate found.2 values).isSome := by
    intro u
    rw [validateAt, Option.bind_map]
    cases locate u.nodes values (Path.segments path) with
    | none => rfl
    | some found => exact (hsome found.1 found.2).symm
  rw [hrun, hrun, locate_of_map_eq hname h]

theorem validateAt_of_map_eq
    (hsame : ∀ w value, (k w).validate value values = w.validate value values) (path : String) :
    v.validateAt path values = v'.validateAt path values := by
  have hrun : ∀ u : FormValidator, u.validateAt path values
      = ((locate u.nodes values (Path.segments path)).map fun found => (k found.1, found.2)).bind
        fun found => found.1.validate found.2 values := by
    intro u
    rw [validateAt, Option.bind_map]
    cases locate u.nodes values (Path.segments path) with
    | none => rfl
    | some found => exact (hsame found.1 found.2).symm
  rw [hrun, hrun, locate_of_map_eq hname h]

end

end FormValidator

/-! ## A form with and without wording -/

namespace Survey

/-- A check that no value passes. -/
def never : CustomCheck := ⟨0, fun _ _ => .ok (.invalid none)⟩

/-- A text that has to be given and is never the right one. -/
def question (label : Option String) (messages : Dict String) (dependencies : List String) :
    Field where
  info := { name := "name", kind := .text, label := label, placeholder := label, required := true,
            messages := messages,
            rules := some { custom := some { dependencies := dependencies, check := some never } } }
  itemSchema := none
  fields := []

/-- The question in a group, without any wording. -/
def plain : Form where
  items := [.group {} [.field (question none [] [])]]

/-- The question with a label, templates, and the paths that it depends on. -/
def worded (dependencies : List String) : Form where
  title := some "Survey"
  items := [.group { title := some "You" }
    [.field (question (some "Name") [("custom", "why")] dependencies)]]

/-- Templates for all fields. -/
def templates : MessageOverrides := [("custom", "no")]

/-- A document with an answer. -/
def answered : Json := .object [("name", .string "a")]

end Survey

/-! ## Main statement -/

/-- Two forms that differ only in what describes them, in what words their messages, and in the
dependencies of custom rules are refused for the same defect, or both compile.  Then they have
messages under the same paths, whatever the templates, and show the same fields.  Where the wording
is the same as well, so are the messages. -/
theorem Form.validity_of_strip_eq [PatternReader] {form form' : Form}
    (h : form.strip FieldInfo.bare = form'.strip FieldInfo.bare)
    (overrides overrides' : MessageOverrides) :
    ((∃ d, form.compile overrides = .error d ∧ form'.compile overrides' = .error d)
      ∨ ∃ v v', form.compile overrides = .ok v ∧ form'.compile overrides' = .ok v'
        ∧ (∀ values, (v.validate values).names = (v'.validate values).names
          ∧ (v.validateVisible values).names = (v'.validateVisible values).names
          ∧ ∀ path, (v.validateAt path values).isSome = (v'.validateAt path values).isSome)
        ∧ (form.strip FieldInfo.worded = form'.strip FieldInfo.worded → overrides = overrides' →
          ∀ values, v.validate values = v'.validate values
            ∧ v.validateVisible values = v'.validateVisible values
            ∧ ∀ path, v.validateAt path values = v'.validateAt path values))
    ∧ ∀ values, form.visibility values = form'.visibility values := by
  constructor
  · have hcompile := Form.compile_of_strip_eq (Strips.bare overrides [])
      (Strips.bare overrides' []) h
    rcases Except.map_eq_map_iff.mp hcompile with ⟨d, hc, hc'⟩ | ⟨v, v', hc, hc', hbare⟩
    · exact Or.inl ⟨d, hc, hc'⟩
    · refine Or.inr ⟨v, v', hc, hc', fun values => ?_, fun hworded hoverrides values => ?_⟩
      · have hname : ∀ w : FieldValidator, w.bare.name = w.name := fun _ => rfl
        have hsome : ∀ (w : FieldValidator) value, (w.bare.validate value values).isSome
            = (w.validate value values).isSome := fun _ _ => FieldValidator.isSome_validate_bare
        exact ⟨FormValidator.names_errorsOf_of_map_eq hname hbare hsome false,
          FormValidator.names_errorsOf_of_map_eq hname hbare hsome true,
          FormValidator.isSome_validateAt_of_map_eq hname hbare hsome⟩
      · subst hoverrides
        have hcompile := Form.compile_of_strip_eq (Strips.worded overrides)
          (Strips.worded overrides) hworded
        rw [hc, hc'] at hcompile
        have hmap : v.map FieldValidator.worded = v'.map FieldValidator.worded :=
          Except.ok.inj hcompile
        have hname : ∀ w : FieldValidator, w.worded.name = w.name := fun _ => rfl
        have hsame : ∀ (w : FieldValidator) value, w.worded.validate value values
            = w.validate value values := fun _ _ => FieldValidator.validate_worded
        exact ⟨FormValidator.errorsOf_of_map_eq hname hmap hsame false,
          FormValidator.errorsOf_of_map_eq hname hmap hsame true,
          FormValidator.validateAt_of_map_eq hname hmap hsame⟩
  · intro values
    rw [← Form.visibility_strip FieldInfo.keepsOutline_bare form, h,
      Form.visibility_strip FieldInfo.keepsOutline_bare]

/-- The question is answered wrongly with and without wording, in other words; what it depends on
does not count for these. -/
theorem Survey.answered_wrongly_in_other_words :
    plain.strip FieldInfo.bare = (worded []).strip FieldInfo.bare
    ∧ (worded []).strip FieldInfo.bare = (worded ["age"]).strip FieldInfo.bare
    ∧ (worded []).strip FieldInfo.worded = (worded ["age"]).strip FieldInfo.worded
    ∧ ∃ v v' v'', plain.compile templates = .ok v ∧ (worded []).compile [] = .ok v'
      ∧ (worded ["age"]).compile [] = .ok v''
      ∧ v.validate answered = [("name", "no")]
      ∧ v'.validate answered = [("name", "why")]
      ∧ (v.validate answered).names = (v'.validate answered).names
      ∧ v'.validate answered = v''.validate answered := by
  have hbare : plain.strip FieldInfo.bare = (worded []).strip FieldInfo.bare := rfl
  have hbare' : (worded []).strip FieldInfo.bare = (worded ["age"]).strip FieldInfo.bare := rfl
  have hworded : (worded []).strip FieldInfo.worded = (worded ["age"]).strip FieldInfo.worded := rfl
  obtain ⟨⟨d, hd, -⟩ | ⟨v, v', hc, hc', hkeys, -⟩, -⟩ :=
    Form.validity_of_strip_eq hbare templates []
  · cases hd
  obtain ⟨⟨d, hd, -⟩ | ⟨w, v'', hw, hc'', -, hsame⟩, -⟩ :=
    Form.validity_of_strip_eq hbare' [] []
  · cases hd
  obtain rfl := Except.ok.inj (hw.symm.trans hc')
  have hmessage : v.validate answered = [("name", "no")] := by
    obtain rfl := Except.ok.inj hc
    rfl
  have hmessage' : w.validate answered = [("name", "why")] := by
    obtain rfl := Except.ok.inj hw
    rfl
  exact ⟨hbare, hbare', hworded, v, w, v'', hc, hw, hc'', hmessage, hmessage',
    (hkeys answered).1, (hsame hworded rfl answered).1⟩

end FormLogic
