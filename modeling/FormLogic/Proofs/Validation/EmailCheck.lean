/-
  FormLogic.Proofs.Validation.EmailCheck

  Which texts pass for e-mail addresses.

  A field is held to the rule for e-mail addresses by its kind or by a flag
  among its rules, and both compile to one check.  So what the flag does to a
  field of another kind is told by comparing the field with and without it:
  all other rules are the same, and the one for addresses is given only with
  the flag (`FieldInfo.obeys_withEmail_iff`).

    * `FieldInfo.breaks_email_iff` — what it is to break the rule.
    * `FieldValidator.addresses_accepted` — what fields with the rule accept.
-/

import FormLogic.Proofs.Pattern.Address
import FormLogic.Proofs.Validation.Fillable

namespace FormLogic

variable {overrides : MessageOverrides}

namespace FieldInfo

variable {info : FieldInfo} {v values : Json} {s : String}

/-- A field for e-mail addresses that has no other rule for texts. -/
structure HasOnlyEmail (info : FieldInfo) : Prop where
  kind : info.kind = .email
  minLength : info.ruleSet.minLength = none
  maxLength : info.ruleSet.maxLength = none
  pattern : info.ruleSet.pattern = none
  check : ∀ check, ¬ info.HasCheck check

/-- The field with the flag for e-mail addresses set or not. -/
def withEmail (info : FieldInfo) (flag : Bool) : FieldInfo :=
  { info with rules := some { info.ruleSet with email := flag } }

/-- A text breaks the rule for e-mail addresses, where it is given, exactly if it is none. -/
theorem breaks_email_iff : info.Breaks (.string s) .email ↔
    (info.ruleSet.email = true ∨ info.kind = .email) ∧ ¬ IsAddress s := by
  simp [Breaks, PatternReader.read?, Except.toOption, Pattern.read_emailPattern,
    ← Pattern.isMatch_emailShape]

/-- No other rule depends on the flag. -/
theorem breaks_withEmail_iff {flag flag' : Bool} {key : RuleKey} (hkey : key ≠ .email) :
    (info.withEmail flag).Breaks v key ↔ (info.withEmail flag').Breaks v key := by
  cases key with
  | email => exact absurd rfl hkey
  | _ => exact Iff.rfl

/-- A text obeys the rules with the flag exactly if it obeys those without it and is an e-mail
address. -/
theorem obeys_withEmail_iff (htext : info.kind.isTextual = true) (hkind : info.kind ≠ .email) :
    (∀ k ∈ info.kind.rules, ¬ (info.withEmail true).Breaks (.string s) k) ↔
      (∀ k ∈ info.kind.rules, ¬ (info.withEmail false).Breaks (.string s) k) ∧ IsAddress s := by
  have hmem : RuleKey.email ∈ info.kind.rules := by simp [rules_of_isTextual htext]
  constructor
  · intro hobeys
    refine ⟨fun k hk hbroken => ?_, ?_⟩
    · by_cases hkey : k = .email
      · subst hkey
        -- without the flag the rule is not given
        rcases (breaks_email_iff.mp hbroken).1 with hflag | hemail
        · cases hflag
        · exact hkind hemail
      · exact hobeys k hk ((breaks_withEmail_iff hkey).mp hbroken)
    · by_contra hs
      exact hobeys .email hmem (breaks_email_iff.mpr ⟨Or.inl rfl, hs⟩)
  · rintro ⟨hobeys, hs⟩ k hk hbroken
    by_cases hkey : k = .email
    · subst hkey
      exact (breaks_email_iff.mp hbroken).2 hs
    · exact hobeys k hk ((breaks_withEmail_iff hkey).mp hbroken)

/-- A text that is not empty is accepted if it obeys the rules and an attached check finds it
valid. -/
theorem accepts_text_iff (hs : s ≠ "") : info.Accepts (some (.string s)) values ↔
    (∀ k ∈ info.kind.rules, ¬ info.Breaks (.string s) k)
      ∧ ∀ check, info.HasCheck check → check.run (.string s) values = .ok .valid := by
  have hpass : ¬ PassedOver (.string s) := by simp [PassedOver, hs]
  constructor
  · exact fun hacc => ⟨hacc.obeyed _ rfl hpass, hacc.passed⟩
  · rintro ⟨hobeys, hpassed⟩
    refine ⟨?_, fun w hw _ => Option.some.inj hw ▸ hobeys, hpassed⟩
    rintro ⟨hvacant, -⟩
    cases hvacant
    exact hs rfl

/-- A field that has only the rule for e-mail addresses accepts them and no other text. -/
theorem HasOnlyEmail.accepts_iff (h : info.HasOnlyEmail) (hs : s ≠ "") :
    info.Accepts (some (.string s)) values ↔ IsAddress s := by
  have hurl : info.kind ≠ .url := by simp [h.kind]
  have hemail : info.Breaks (.string s) .email ↔ ¬ IsAddress s := by
    rw [breaks_email_iff, and_iff_right (Or.inr h.kind)]
  have hchecks : ∀ check, info.HasCheck check → check.run (.string s) values = .ok .valid :=
    fun check hc => absurd hc (h.check check)
  rw [accepts_text_iff hs, and_iff_left hchecks, h.kind, FieldKind.rules]
  simp only [List.forall_mem_cons, hemail, not_not]
  simp [Breaks, h.minLength, h.maxLength, h.pattern, hurl]

/-- It compiles under all templates of messages. -/
theorem HasOnlyEmail.exists_compile (h : info.HasOnlyEmail) (overrides : MessageOverrides) :
    ∃ v, FieldValidator.compile overrides info = .ok v := by
  refine FieldValidator.exists_compile_iff.mpr ⟨fun pair hconflict => ?_, ?_,
    FieldValidator.not_hasBadAddress ⟨_, Pattern.read_emailPattern⟩⟩
  · cases hconflict with
    | length _ hlow _ _ => cases h.minLength.symm.trans hlow
    | range hk _ _ _ | items hk _ _ _ => cases h.kind.symm.trans hk
  · rintro reason ⟨-, text, htext, -⟩
    cases h.pattern.symm.trans htext

/-- The flag makes no field uncompilable. -/
theorem exists_compile_withEmail {w : FieldValidator}
    (hw : FieldValidator.compile overrides (info.withEmail false) = .ok w) :
    ∃ v, FieldValidator.compile overrides (info.withEmail true) = .ok v := by
  obtain ⟨hordered, hpattern, -⟩ := FieldValidator.exists_compile_iff.mp ⟨w, hw⟩
  refine FieldValidator.exists_compile_iff.mpr ⟨fun pair hconflict => hordered pair ?_, hpattern,
    FieldValidator.not_hasBadAddress ⟨_, Pattern.read_emailPattern⟩⟩
  cases hconflict with
  | length hk hlow hhigh hlt => exact .length hk hlow hhigh hlt
  | range hk hlow hhigh hlt => exact .range hk hlow hhigh hlt
  | items hk hlow hhigh hlt => exact .items hk hlow hhigh hlt

end FieldInfo

/-! ## Main statement -/

/-- A field for e-mail addresses without other rules compiles, and of the texts that are not empty
it accepts the e-mail addresses.  The flag adds the same demand, and no other, to a field of any
other kind for texts: with it the field accepts the e-mail addresses among what it accepts without
it. -/
theorem FieldValidator.addresses_accepted (overrides : MessageOverrides) :
    (∀ info : FieldInfo, info.HasOnlyEmail →
      ∃ v, compile overrides info = .ok v ∧ ∀ s values, s ≠ "" →
        (v.validate (some (.string s)) values = none ↔ IsAddress s))
    ∧ ∀ info : FieldInfo, info.kind.isTextual = true → info.kind ≠ .email →
      ∀ w, compile overrides (info.withEmail false) = .ok w →
      ∃ v, compile overrides (info.withEmail true) = .ok v ∧ ∀ s values, s ≠ "" →
        (v.validate (some (.string s)) values = none ↔
          w.validate (some (.string s)) values = none ∧ IsAddress s) := by
  constructor
  · intro info h
    obtain ⟨v, hv⟩ := h.exists_compile overrides
    refine ⟨v, hv, fun s values hs => ?_⟩
    rw [validate_eq_none_iff hv, h.accepts_iff hs]
  · intro info htext hkind w hw
    obtain ⟨v, hv⟩ := FieldInfo.exists_compile_withEmail hw
    refine ⟨v, hv, fun s values hs => ?_⟩
    rw [validate_eq_none_iff hv, validate_eq_none_iff hw, FieldInfo.accepts_text_iff hs,
      FieldInfo.accepts_text_iff hs, and_right_comm]
    exact and_congr_left' (FieldInfo.obeys_withEmail_iff htext hkind)

namespace Newsletter

/-- Where the newsletter is sent to. -/
def recipient : FieldInfo where
  name := "recipient"
  kind := .email
  required := true

/-- A short address to reply to. -/
def sender : FieldInfo where
  name := "sender"
  kind := .textarea
  rules := some { maxLength := some 8 }

theorem hasOnlyEmail_recipient : recipient.HasOnlyEmail where
  kind := rfl
  minLength := rfl
  maxLength := rfl
  pattern := rfl
  check := fun _ ⟨_, hrule, _⟩ => nomatch hrule

/-- Dots may stand anywhere but at both ends of the host; and a text that is short enough is
accepted for a sender if it is an address. -/
theorem addresses_of_newsletter : recipient.HasOnlyEmail
    ∧ sender.kind.isTextual = true ∧ sender.kind ≠ .email
    ∧ (∃ v, FieldValidator.compile [] recipient = .ok v
      ∧ v.validate (some (.string ".a.@b..c.d")) .null = none
      ∧ v.validate (some (.string "a@.bc")) .null ≠ none)
    ∧ ∃ w v, FieldValidator.compile [] (sender.withEmail false) = .ok w
      ∧ FieldValidator.compile [] (sender.withEmail true) = .ok v
      ∧ w.validate (some (.string "a@b\n.c")) .null = none
      ∧ v.validate (some (.string "a@b\n.c")) .null ≠ none := by
  obtain ⟨v, hv, haccepts⟩ :=
    (FieldValidator.addresses_accepted []).1 recipient hasOnlyEmail_recipient
  obtain ⟨w, hw⟩ : ∃ w, FieldValidator.compile [] (sender.withEmail false) = .ok w := ⟨_, rfl⟩
  obtain ⟨u, hu, hshort⟩ :=
    (FieldValidator.addresses_accepted []).2 sender rfl (by decide) w hw
  have haddress : ∀ s, IsAddress s ↔ Pattern.emailShape.isMatch s = true :=
    fun s => Pattern.isMatch_emailShape.symm
  refine ⟨hasOnlyEmail_recipient, rfl, by decide, ⟨v, hv, ?_, ?_⟩, w, u, hw, hu, ?_, ?_⟩
  · rw [haccepts _ _ (by decide), haddress]
    decide +kernel
  · rw [Ne, haccepts _ _ (by decide), haddress]
    decide +kernel
  · obtain rfl := Except.ok.inj hw
    rfl
  · rw [Ne, hshort _ _ (by decide), haddress, not_and]
    intro _
    decide +kernel

end Newsletter
end FormLogic
