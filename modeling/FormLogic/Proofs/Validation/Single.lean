/-
  FormLogic.Proofs.Validation.Single

  One field validated by itself, as when its value changes, against the pass
  over the whole form.

  By itself a field is compiled anew and handed its value, with null for a
  missing one.  A validator does not tell null from missing, and of all that
  is visited in a form only the field at the top has its name for a path; so
  both passes come to one message.  Where the values around are not given,
  they are taken to be the value alone, as if the field were all of the form.

    * `Field.CompilesTo.compile_alone` — a field that compiles somewhere is a
      form of its own.
    * `Form.get?_validate_name` — the message under the name of a field.
    * `Form.single_agrees` — the message of the field by itself.
-/

import FormLogic.Proofs.Condition.Meaning
import FormLogic.Proofs.Validation.Building
import FormLogic.Proofs.Validation.Locate

namespace FormLogic

section Reader

variable [PatternReader] {overrides : MessageOverrides}

/-! ## A field by itself -/

/-- A field that compiles to a node somewhere makes up a form of this node, with its own gate
alone. -/
theorem Field.CompilesTo.compile_alone {f : Field} {n : Node} (h : f.CompilesTo overrides n) :
    Form.compile overrides { items := [.field f] }
      = .ok ⟨[{ n with gates := f.info.gate.toList }]⟩ := by
  obtain ⟨around, gates, taken, h⟩ := h
  have halone := f.compilesAnywhere around "" gates taken [] n h List.not_mem_nil
  obtain ⟨hfree, hv, -, hcompiled⟩ := Field.compile_cases halone
  -- of what is around only the gates come into the node
  have hnode : Field.compile overrides "" [] [] f = .ok { n with gates := f.info.gate.toList } := by
    refine Field.compile_eq_ok_iff.mpr ⟨hfree, hv, rfl, ?_⟩
    cases hcompiled with
    | entries hk ht hs hc => exact .entries hk ht hs hc
    | members hk hs hc => exact .members hk hs hc
    | nowhere harray hobject hs hc => exact .nowhere harray hobject hs hc
  rw [Form.compile, Item.compileAll, Item.compile, hnode]
  rfl

namespace FieldValidator

variable {info : FieldInfo} {v : FieldValidator}

/-- Validating one value compiles the field and runs its validator. -/
theorem validateOne_of_compile (h : compile overrides info = .ok v) (value values : Json) :
    validateOne overrides info value values = .ok (v.validate (some value) values) := by
  rw [validateOne, h]
  rfl

end FieldValidator

namespace Form

variable {form : Form} {v : FormValidator} {f : Field}

/-- Under the name of a field at the top there is the message of the field's own validator. -/
theorem get?_validate_name (hc : form.compile overrides = .ok v)
    (hn : form.hasPlainNames = true) (hf : Item.Declares form.items f) (values : Json) :
    ∃ validator, FieldValidator.compile overrides f.info = .ok validator
      ∧ Dict.get? (v.validate values) f.info.name
        = validator.validate (Path.resolve values f.info.name) values := by
  have hreach : form.Reaches values f.info.name f (Path.resolve values f.info.name) :=
    ⟨[f.info.name], .here hf, rfl⟩
  obtain ⟨validator, hv, -⟩ := validateAt_of_finds hc hn hreach.finds
  have hvisit : ⟨f.info.name, Path.resolve values f.info.name, validator⟩
      ∈ v.visits false values := (mem_visits_iff hc).mpr ⟨f, hreach, hv⟩
  exact ⟨validator, hv, FormValidator.get?_errorsOf (nodup_visits hc hn false values) hvisit⟩

/-- By itself a field has the message that the whole form has under its name. -/
theorem validateOne_eq_get? (hc : form.compile overrides = .ok v)
    (hn : form.hasPlainNames = true) (hf : Item.Declares form.items f) (values : Json) :
    FieldValidator.validateOne overrides f.info
        ((Path.resolve values f.info.name).getD .null) values
      = .ok (Dict.get? (v.validate values) f.info.name) := by
  obtain ⟨validator, hv, hget⟩ := get?_validate_name hc hn hf values
  rw [FieldValidator.validateOne_of_compile hv, FieldValidator.validate_getD_null, hget]

end Form

/-! ## Main statement -/

/-- A field at the top of a form or in its groups, validated by itself with the value under its
name, null if there is none, compiles and has the message that the whole form has under the name.
Without the values of a form it has the message that the form of this field alone, which compiles as
well, has for its value alone. -/
theorem Form.single_agrees {form : Form} {v : FormValidator} {f : Field}
    (hc : form.compile overrides = .ok v) (hn : form.hasPlainNames = true)
    (hf : Item.Declares form.items f) :
    (∀ values, FieldValidator.validateOne overrides f.info
          ((Path.resolve values f.info.name).getD .null) values
        = .ok (Dict.get? (v.validate values) f.info.name)
      ∧ FieldValidator.validateNamed overrides f.info f.info.name
          ((Path.resolve values f.info.name).getD .null) (some values)
        = .ok (Dict.get? (v.validate values) f.info.name))
    ∧ ∃ w, Form.compile overrides { items := [.field f] } = .ok w
      ∧ ∀ value, FieldValidator.validateNamed overrides f.info f.info.name value none
        = .ok (Dict.get? (w.validate (.ofMembers [(f.info.name, value)])) f.info.name) := by
  have hsingle := validateOne_eq_get? hc hn hf
  refine ⟨fun values => ⟨hsingle values, hsingle values⟩, ?_⟩
  obtain ⟨n, -, hfn⟩ := (compile_scopeOf hc).node_of_field f hf
  refine ⟨_, hfn.compile_alone, fun value => ?_⟩
  have hplain : f.hasPlainNames = true := plainNames_declares hn f hf
  have hn' : Form.hasPlainNames { items := [.field f] } = true := by
    simp [Form.hasPlainNames, Item.allHavePlainNames, Item.hasPlainNames, hplain]
  have hname : f.info.name ≠ "" := by
    have hsegment := (plainNames_declares hn).isSegment hf
    exact (Path.isSegment_iff.mp hsegment).1
  -- the value alone is found under the name
  have hvalue : Path.resolve (.ofMembers [(f.info.name, value)]) f.info.name = some value :=
    Path.resolve_member hname value
  have halone := validateOne_eq_get? hfn.compile_alone hn' (.field List.mem_cons_self)
    (.ofMembers [(f.info.name, value)])
  rw [hvalue] at halone
  exact halone

end Reader

namespace Membership

/-- A check that refuses every value. -/
def closed : CustomCheck := ⟨0, fun _ _ => .ok (.invalid (some "closed"))⟩

/-- A text that members have to give, and that is refused. -/
def code : Field where
  info := { name := "code", kind := .text, messages := [("required", "which")],
            rules := some { required := some (.when (.check
                              { field := "role", operator := .equals,
                                value := some (.string "member") })),
                            custom := some { check := some closed } } }
  itemSchema := none
  fields := []

/-- The code in a group. -/
def membershipForm : Form where
  items := [.group {} [.field code]]

theorem compiles : ∃ v, membershipForm.compile [] = .ok v := ⟨_, rfl⟩

theorem hasPlainNames : membershipForm.hasPlainNames = true := by decide

theorem declares_code : Item.Declares membershipForm.items code :=
  .group List.mem_cons_self (.field List.mem_cons_self)

/-- A member without a code. -/
def member : Json := .object [("role", .string "member")]

/-- A member is asked for a missing code, and without a form the code is refused, by itself as in
the form. -/
theorem code_validated_alone : ∃ v w, membershipForm.compile [] = .ok v
    ∧ membershipForm.hasPlainNames = true ∧ Item.Declares membershipForm.items code
    ∧ Path.resolve member "code" = none
    ∧ Dict.get? (v.validate member) "code" = some "which"
    ∧ FieldValidator.validateOne [] code.info .null member = .ok (some "which")
    ∧ FieldValidator.validateNamed [] code.info "code" .null (some member) = .ok (some "which")
    ∧ Form.compile [] { items := [.field code] } = .ok w
    ∧ Dict.get? (w.validate (.ofMembers [("code", .string "a")])) "code" = some "closed"
    ∧ FieldValidator.validateNamed [] code.info "code" (.string "a") none
      = .ok (some "closed") := by
  obtain ⟨v, hc⟩ := compiles
  obtain ⟨hall, w, hw, halone⟩ := Form.single_agrees hc hasPlainNames declares_code
  have hmissing : Path.resolve member "code" = none := by decide
  have hasked : Dict.get? (v.validate member) "code" = some "which" := by
    obtain rfl := Except.ok.inj hc
    rfl
  have hrefused : Dict.get? (w.validate (.ofMembers [("code", .string "a")])) "code"
      = some "closed" := by
    obtain rfl := Except.ok.inj hw
    rfl
  obtain ⟨hone, hnamed⟩ := hall member
  rw [show code.info.name = "code" from rfl, hmissing, hasked] at hone hnamed
  have hsingle := halone (.string "a")
  rw [show code.info.name = "code" from rfl, hrefused] at hsingle
  exact ⟨v, w, hc, hasPlainNames, declares_code, hmissing, hasked, hone, hnamed, hw, hrefused,
    hsingle⟩

end Membership
end FormLogic
