/-
  FormLogic.Proofs.Schema.Same

  Sameness is reflexive: every document, condition, rule set, field and form
  is the same as itself.  Numbers are finite here, so that none of them is an
  exception.
-/

import FormLogic.Schema.Form

namespace FormLogic

@[simp] theorem Double.same_self (d : Double) : d.same d = true := by
  simp [Double.same]

@[simp] theorem Number.same_self (n : Number) : n.same n = true := by
  cases n <;> simp [Number.same]

/-! ## Documents -/

namespace Json

variable {eq : Number → Number → Bool}

mutual

theorem agree_self (heq : ∀ n, eq n n = true) : ∀ v : Json, agree eq v v = true
  | .null => by rw [agree]
  | .bool b => by simp [agree]
  | .number n => by rw [agree, heq]
  | .string s => by simp [agree]
  | .array items => by rw [agree, agreeAll_self heq items]
  | .object members => by rw [agree, agreeMembers_self heq members]

theorem agreeAll_self (heq : ∀ n, eq n n = true) : ∀ vs : List Json, agreeAll eq vs vs = true
  | [] => by rw [agreeAll]
  | v :: vs => by rw [agreeAll, agree_self heq v, agreeAll_self heq vs, Bool.and_self]

theorem agreeMembers_self (heq : ∀ n, eq n n = true) :
    ∀ ms : List (String × Json), agreeMembers eq ms ms = true
  | [] => by rw [agreeMembers]
  | (k, v) :: ms => by simp [agreeMembers, agree_self heq v, agreeMembers_self heq ms]

end

@[simp] theorem sameOption_self (v : Option Json) : sameOption v v = true := by
  cases v with
  | none => rfl
  | some v => exact agree_self Number.same_self v

end Json

theorem Rules.sameOption_self {α : Type} {same : α → α → Bool} (h : ∀ a, same a a = true)
    (x : Option α) : Rules.sameOption same x x = true := by
  cases x with
  | none => rfl
  | some a => exact h a

/-! ## Conditions and rules -/

@[simp] theorem Condition.same_self (c : Condition) : c.same c = true := by
  obtain ⟨field, operator, value, _ | values⟩ := c
  · simp [Condition.same]
  · simp [Condition.same, Json.agreeAll_self Number.same_self]

namespace Logic

mutual

@[simp] theorem same_self : ∀ l : Logic, l.same l = true
  | .check c => by rw [same, c.same_self]
  | .and parts => by rw [same, sameAll_self parts]
  | .or parts => by rw [same, sameAll_self parts]
  | .not part => by rw [same, same_self part]

theorem sameAll_self : ∀ parts : List Logic, sameAll parts parts = true
  | [] => by rw [sameAll]
  | p :: ps => by rw [sameAll, same_self p, sameAll_self ps, Bool.and_self]

end

end Logic

@[simp] theorem RequiredRule.same_self (r : RequiredRule) : r.same r = true := by
  cases r <;> simp [RequiredRule.same]

@[simp] theorem CustomRule.same_self (r : CustomRule) : r.same r = true := by
  simp [CustomRule.same]

@[simp] theorem Rules.same_self (r : Rules) : r.same r = true := by
  simp [Rules.same, Rules.sameOption_self]

/-! ## Fields and forms -/

@[simp] theorem FieldInfo.same_self (f : FieldInfo) : f.same f = true := by
  simp [FieldInfo.same, Rules.sameOption_self, Json.agreeAll_self, Json.agreeMembers_self]

@[simp] theorem GroupInfo.same_self (g : GroupInfo) : g.same g = true := by
  simp [GroupInfo.same, Rules.sameOption_self, Json.agreeMembers_self]

mutual

@[simp] theorem Field.same_self : ∀ f : Field, f.same f = true
  | ⟨info, some items, fields⟩ => by
    simp [Field.same, Item.sameAll_self items, Field.sameAll_self fields]
  | ⟨info, none, fields⟩ => by simp [Field.same, Field.sameAll_self fields]

theorem Field.sameAll_self : ∀ fs : List Field, Field.sameAll fs fs = true
  | [] => by rw [Field.sameAll]
  | f :: fs => by rw [Field.sameAll, Field.same_self f, Field.sameAll_self fs, Bool.and_self]

theorem Item.same_self : ∀ i : Item, i.same i = true
  | .field f => by rw [Item.same, Field.same_self f]
  | .group info items => by simp [Item.same, Item.sameAll_self items]

theorem Item.sameAll_self : ∀ items : List Item, Item.sameAll items items = true
  | [] => by rw [Item.sameAll]
  | i :: is => by rw [Item.sameAll, Item.same_self i, Item.sameAll_self is, Bool.and_self]

end

/-- Every form is the same as itself. -/
theorem Form.same_self (form : Form) : form.same form = true := by
  simp [Form.same, Item.sameAll_self]

end FormLogic
