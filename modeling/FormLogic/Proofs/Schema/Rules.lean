/-
  FormLogic.Proofs.Schema.Rules

  Rule sets written and read back.

  Requirements and custom checks given as functions cannot be written, but
  none comes out of a document, so that what was read survives.

    * `RequiredRule.survives_of_decode` — a flag stays a flag, a tree of
      conditions stays one.
    * `Rules.survives_of_decode` — a whole set of rules.
-/

import FormLogic.Schema.Rules
import FormLogic.Proofs.Condition.RoundTrip

namespace FormLogic

/-! ## Custom checks -/

namespace CustomRule

/-- The one member of a custom rule. -/
def table : List (Json.Member CustomRule) := [
  ⟨_, "dependencies", CustomRule.dependencies, fun r x => { r with dependencies := x },
    Json.asListOf Json.asString⟩]

theorem isTable : Json.Table shape table fun r _ _ => r where
  read_member := by simp [table, shape]
  read_other := by
    intro d name v h
    simp only [table, List.map_cons, List.map_nil, List.mem_cons, not_or] at h
    simp only [shape]
    split <;> simp_all
  get_set := by simp [table]
  get_set_of_ne := by simp [table]
  get_other := by simp

/-- No check comes out of a document. -/
theorem check_of_decode {v : Json} {r : CustomRule} (h : decode v = .ok r) : r.check = none := by
  obtain ⟨d, hd, hfinish⟩ := Json.RecordShape.decode_eq_ok h
  obtain rfl := Except.ok.inj hfinish
  exact isTable.eq_of_readMembers (f := CustomRule.check) (by simp [table]) (by simp) hd

/-- Written and read back, a rule is the same but for its check. -/
theorem decode_encode (r : CustomRule) : decode r.encode = .ok { r with check := none } := by
  refine isTable.decode_ofMembers (t := { r with check := none }) ?_ ?_
  · simp only [table, List.forall_mem_cons, List.not_mem_nil, false_imp_iff, implies_true, and_true]
    exact Json.readMember_list Json.ofTexts (by simp) (by simp)
  · intro d hd hparts
    simp only [table, List.forall_mem_cons, List.not_mem_nil, false_imp_iff, implies_true,
      and_true] at hparts
    have hcheck : d.check = none :=
      isTable.eq_of_readMembers (f := CustomRule.check) (by simp [table]) (by simp) hd
    cases d
    simp_all

end CustomRule

/-! ## Requirements -/

/-- A requirement that was read survives being written. -/
theorem RequiredRule.survives_of_decode {v : Json} {r : RequiredRule} (h : decode v = .ok r) :
    Json.Survives decode encode r := by
  rw [decode.eq_def] at h
  split at h
  · next b =>
    obtain rfl := Except.ok.inj h
    exact ⟨.bool b, rfl, by simp, rfl⟩
  · split at h
    · next l hl =>
      obtain rfl := Except.ok.inj h
      obtain ⟨members, hobject⟩ := l.encode_eq_object
      have hread := Logic.read?_encode_of_read? hl
      refine ⟨l.encode, rfl, l.encode_ne_null, ?_⟩
      -- a tree is written as an object, which no flag is
      rw [hobject] at hread ⊢
      simp only [decode, hread]
    · cases h

/-! ## Rule sets -/

namespace Rules

/-- The members of a rule set. -/
def table : List (Json.Member Rules) := [
  ⟨_, "required", Rules.required, fun r x => { r with required := x },
    Json.asOption RequiredRule.decode⟩,
  ⟨_, "minLength", Rules.minLength, fun r x => { r with minLength := x },
    Json.asOption Json.asNatural⟩,
  ⟨_, "maxLength", Rules.maxLength, fun r x => { r with maxLength := x },
    Json.asOption Json.asNatural⟩,
  ⟨_, "pattern", Rules.pattern, fun r x => { r with pattern := x }, Json.asOption Json.asString⟩,
  ⟨_, "email", Rules.email, fun r x => { r with email := x }, Json.asBool⟩,
  ⟨_, "min", Rules.min, fun r x => { r with min := x }, Json.asOption Json.asReal⟩,
  ⟨_, "max", Rules.max, fun r x => { r with max := x }, Json.asOption Json.asReal⟩,
  ⟨_, "minItems", Rules.minItems, fun r x => { r with minItems := x },
    Json.asOption Json.asNatural⟩,
  ⟨_, "maxItems", Rules.maxItems, fun r x => { r with maxItems := x },
    Json.asOption Json.asNatural⟩,
  ⟨_, "custom", Rules.custom, fun r x => { r with custom := x },
    Json.asOption CustomRule.decode⟩]

theorem isTable : Json.Table shape table fun r _ _ => r where
  read_member := by simp [table, shape]
  read_other := by
    intro d name v h
    simp only [table, List.map_cons, List.map_nil, List.mem_cons, not_or] at h
    simp only [shape]
    split <;> simp_all
  get_set := by simp [table]
  get_set_of_ne := by simp [table]
  get_other := by simp

/-- A rule set that was read survives being written. -/
theorem survives_of_decode {v : Json} {r : Rules} (h : decode v = .ok r) :
    Json.Survives decode encode r := by
  obtain ⟨d, hd, hfinish⟩ := Json.RecordShape.decode_eq_ok h
  obtain rfl := Except.ok.inj hfinish
  have hparts := isTable.get_of_readMembers hd
  simp only [table, List.forall_mem_cons, List.not_mem_nil, false_imp_iff, implies_true,
    and_true] at hparts
  obtain ⟨hrequired, -, -, -, -, -, -, -, -, hcustom⟩ := hparts
  -- the two parts that need not survive, had they not been read
  have hsurvives : ∀ x ∈ d.required, Json.Survives RequiredRule.decode RequiredRule.encode x := by
    intro x hx
    obtain ⟨w, -, hw⟩ := Json.exists_read_of_mem hrequired x hx
    exact RequiredRule.survives_of_decode hw
  have hcheck : ∀ c ∈ d.custom, CustomRule.decode c.encode = .ok c := by
    intro c hc
    obtain ⟨w, -, hw⟩ := Json.exists_read_of_mem hcustom c hc
    rw [CustomRule.decode_encode, ← CustomRule.check_of_decode hw]
  obtain ⟨required, hwrite, hread⟩ := Json.Survives.readMember hsurvives
  rw [Json.Survives, encode, hwrite]
  refine ⟨_, rfl, Json.ofMembers_ne_null _, isTable.decode_ofMembers (t := d) ?_ ?_⟩
  · simp only [table, List.forall_mem_cons, List.not_mem_nil, false_imp_iff, implies_true, and_true]
    refine ⟨?_, ?_, ?_, ?_, ?_, ?_, ?_, ?_, ?_, ?_⟩
    · exact hread (by simp)
    · exact Json.readMember_natural (by simp)
    · exact Json.readMember_natural (by simp)
    · exact Json.readMember_text (by simp)
    · exact Json.readMember_given (.bool d.email) (by simp) rfl
    · exact Json.readMember_real (by simp)
    · exact Json.readMember_real (by simp)
    · exact Json.readMember_natural (by simp)
    · exact Json.readMember_natural (by simp)
    · exact Json.readMember_optional CustomRule.encode (by simp) fun c hc =>
        ⟨Json.ofMembers_ne_null _, hcheck c hc⟩
  · rintro d' - hparts
    simp only [table, List.forall_mem_cons, List.not_mem_nil, false_imp_iff, implies_true,
      and_true] at hparts
    cases d
    cases d'
    simp_all

end Rules
end FormLogic
