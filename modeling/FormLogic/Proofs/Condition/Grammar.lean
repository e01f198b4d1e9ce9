/-
  FormLogic.Proofs.Condition.Grammar

  Which objects stand for conditions, and for which.

  An object is a single check if it has the members of one, whatever else it
  has; `SpelledBy` says member by member what the check is.  Otherwise it has
  to have one member only, which is a connective with parts that stand for
  trees themselves.  A check has a member "field" and a connective has none,
  so that no object is both.

    * `Operator.namedBy_iff` — the operator that a name asks for.
    * `Condition.decode_object_iff` — the objects that are read as a check.
    * `Logic.read?_and`, `Logic.read?_or`, `Logic.read?_not` — those that are
      read as a connective.
    * `Logic.decode_of_node` — a tree is read only where all its nodes are.
    * `Logic.decode_by_shape` — the objects that are read as a tree.
-/

import FormLogic.Proofs.Condition.RoundTrip

namespace FormLogic

/-! ## Operators by name -/

namespace Operator

/-- What a name asks for: the operator of that name, or the unknown one if there is none. -/
inductive NamedBy (name : String) : Operator → Prop
  | known {o : Operator} : o ∈ named → o.name = name → NamedBy name o
  | unknown : (∀ o ∈ named, o.name ≠ name) → NamedBy name unknown

theorem namedBy_iff {name : String} {o : Operator} : NamedBy name o ↔ ofName name = o := by
  constructor
  · intro h
    cases h with
    | known _ hname => rw [← hname, ofName_name]
    | unknown hnone =>
      have hfind : named.find? (fun o => o.name = name) = none := by simpa using hnone
      rw [ofName, hfind, Option.getD_none]
  · rintro rfl
    rw [ofName]
    cases hfind : named.find? fun o => o.name = name with
    | none => exact .unknown (by simpa using hfind)
    | some o =>
      exact .known (List.mem_of_find?_eq_some hfind) (by simpa using List.find?_some hfind)

/-- A text is read as the operator that it asks for. -/
theorem decode_string_iff {name : String} {o : Operator} :
    decode (.string name) = .ok o ↔ NamedBy name o := by
  rw [namedBy_iff, decode, Json.asNamed, Except.ok.injEq]

end Operator

/-! ## Checks -/

namespace Condition

variable {members : Dict Json} {c : Condition}

/-- An object spells a check: its field and operator are given as texts, its value is what is given
and not null, and its list of values is what is given unless that is null. -/
structure SpelledBy (members : Dict Json) (c : Condition) : Prop where
  field : Dict.get? members "field" = some (.string c.field)
  operator : ∃ name, Dict.get? members "operator" = some (.string name)
    ∧ Operator.NamedBy name c.operator
  value : ∀ v, c.value = some v ↔ Dict.get? members "value" = some v ∧ v ≠ .null
  values : Dict.get? members "values" = c.values.map .array
    ∨ Dict.get? members "values" = some .null ∧ c.values = none

/-- A check is read from an object where each of its four members is. -/
theorem decode_object_iff_readMember (hnames : members.names.Nodup) :
    decode (.object members) = .ok c ↔
      Json.readMember members "field" (fun v => v.asString.map some) none = .ok (some c.field)
      ∧ Json.readMember members "operator" (fun v => (Operator.decode v).map some) none
        = .ok (some c.operator)
      ∧ Json.readMember members "value" (Json.asOption .ok) none = .ok c.value
      ∧ Json.readMember members "values" (Json.asOption Json.asList) none = .ok c.values := by
  constructor
  · intro h
    obtain ⟨d, hd, hfinish⟩ := Json.RecordShape.decode_eq_ok h
    have hparts := isTable.readMember_of_readMembers hnames hd
    simp only [table, List.forall_mem_cons, List.not_mem_nil, false_imp_iff, implies_true,
      and_true] at hparts
    obtain ⟨hfield, hoperator, hvalue, hvalues⟩ := hparts
    -- the draft has to have a field and an operator
    rw [Draft.finish] at hfinish
    split at hfinish
    · next field operator hf ho =>
      obtain rfl := Except.ok.inj hfinish
      exact ⟨hf ▸ hfield, ho ▸ hoperator, hvalue, hvalues⟩
    · cases hfinish
    · cases hfinish
  · rintro ⟨hfield, hoperator, hvalue, hvalues⟩
    have hparts : ∀ m ∈ table, Json.readMember members m.name m.read (m.get {})
        = .ok (m.get ⟨some c.field, some c.operator, c.value, c.values⟩) := by
      simp only [table, List.forall_mem_cons, List.not_mem_nil, false_imp_iff, implies_true,
        and_true]
      exact ⟨hfield, hoperator, hvalue, hvalues⟩
    obtain ⟨d, hd, hsame⟩ := isTable.readMembers_of_readMember hnames hparts
    simp only [table, List.forall_mem_cons, List.not_mem_nil, false_imp_iff, implies_true,
      and_true] at hsame
    obtain ⟨hf, ho, hv, hvs⟩ := hsame
    refine Json.RecordShape.decode_object hd ?_
    simp only [Draft.finish, hf, ho, hv, hvs]

theorem readMember_field_iff {s : String} :
    Json.readMember members "field" (fun v => v.asString.map some) none = .ok (some s) ↔
      Dict.get? members "field" = some (.string s) := by
  rw [Json.readMember_eq_ok_iff]
  simp [Except.map_eq_ok, Json.asString_eq_ok_iff]

theorem readMember_operator_iff {o : Operator} :
    Json.readMember members "operator" (fun v => (Operator.decode v).map some) none
        = .ok (some o) ↔
      ∃ v, Dict.get? members "operator" = some v ∧ Operator.decode v = .ok o := by
  rw [Json.readMember_eq_ok_iff]
  simp [Except.map_eq_ok]

theorem readMember_value_iff {x : Option Json} :
    Json.readMember members "value" (Json.asOption .ok) none = .ok x ↔
      ∀ v, x = some v ↔ Dict.get? members "value" = some v ∧ v ≠ .null := by
  rw [Json.readMember_value rfl, Except.ok.injEq]
  have hdrop : ∀ v, Json.dropNull (Dict.get? members "value") = some v ↔
      Dict.get? members "value" = some v ∧ v ≠ .null := by
    intro v
    cases hget : Dict.get? members "value" with
    | none => simp [Json.dropNull]
    | some w => cases w <;> cases v <;> simp [Json.dropNull]
  constructor
  · rintro rfl
    exact hdrop
  · intro h
    ext v
    rw [hdrop, h]

theorem readMember_values_iff {x : Option (List Json)} :
    Json.readMember members "values" (Json.asOption Json.asList) none = .ok x ↔
      Dict.get? members "values" = x.map .array
        ∨ Dict.get? members "values" = some .null ∧ x = none := by
  rw [Json.readMember_eq_ok_iff]
  constructor
  · rintro (⟨hget, rfl⟩ | ⟨v, hget, hread⟩)
    · exact Or.inl hget
    · cases v with
      | null =>
        obtain rfl := Except.ok.inj hread
        exact Or.inr ⟨hget, rfl⟩
      | array vs =>
        obtain rfl := Except.ok.inj hread
        exact Or.inl hget
      | _ => cases hread
  · rintro (hget | ⟨hget, rfl⟩)
    · cases x with
      | none => exact Or.inl ⟨hget, rfl⟩
      | some vs => exact Or.inr ⟨.array vs, hget, rfl⟩
    · exact Or.inr ⟨.null, hget, rfl⟩

/-- An object whose operator, if it has one, is a text is read as the check that it spells. -/
theorem decode_object_iff (hnames : members.names.Nodup)
    (hoperator : ∀ v, Dict.get? members "operator" = some v → ∃ name, v = .string name) :
    decode (.object members) = .ok c ↔ c.SpelledBy members := by
  rw [decode_object_iff_readMember hnames, readMember_field_iff, readMember_operator_iff,
    readMember_value_iff, readMember_values_iff]
  constructor
  · rintro ⟨hfield, ⟨v, hget, hread⟩, hvalue, hvalues⟩
    obtain ⟨name, rfl⟩ := hoperator v hget
    exact ⟨hfield, ⟨name, hget, Operator.decode_string_iff.mp hread⟩, hvalue, hvalues⟩
  · rintro ⟨hfield, ⟨name, hget, hnamed⟩, hvalue, hvalues⟩
    exact ⟨hfield, ⟨_, hget, Operator.decode_string_iff.mpr hnamed⟩, hvalue, hvalues⟩

end Condition

/-! ## Trees -/

namespace Logic

variable {vs : List Json} {v w : Json} {parts : List Logic} {part : Logic}

theorem readAll?_eq_some_iff :
    readAll? vs = some parts ↔ List.Forall₂ (fun v p => read? v = some p) vs parts := by
  constructor
  · intro h
    induction vs generalizing parts with
    | nil =>
      obtain rfl := Option.some.inj h
      exact .nil
    | cons v vs ih =>
      obtain ⟨p, ps, rfl, hp, hps⟩ := readAll?_cons_eq_some h
      exact .cons hp (ih hps)
  · intro h
    induction h with
    | nil => rfl
    | cons hp _ ih => rw [readAll?, hp, ih]

theorem read?_and (vs : List Json) :
    read? (.object [("and", .array vs)]) = (readAll? vs).map .and := by
  rw [read?, Condition.toOption_decode_connective (by decide)]

theorem read?_or (vs : List Json) :
    read? (.object [("or", .array vs)]) = (readAll? vs).map .or := by
  rw [read?, Condition.toOption_decode_connective (by decide)]

theorem read?_not (v : Json) : read? (.object [("not", v)]) = (read? v).map .not := by
  rw [read?, Condition.toOption_decode_connective (by decide)]

/-- What is read as no check is an object with one member, which is a connective. -/
theorem eq_check_or_connective {l : Logic} (h : read? v = some l) :
    (∃ c, l = .check c) ∨ ∃ name ∈ connectives, ∃ w, v = .object [(name, w)] := by
  cases l with
  | check c => exact Or.inl ⟨c, rfl⟩
  | and parts =>
    obtain ⟨vs, rfl, -⟩ := read?_eq_some h
    exact Or.inr ⟨"and", by decide, _, rfl⟩
  | or parts =>
    obtain ⟨vs, rfl, -⟩ := read?_eq_some h
    exact Or.inr ⟨"or", by decide, _, rfl⟩
  | not part =>
    obtain ⟨w, rfl, -⟩ := read?_eq_some h
    exact Or.inr ⟨"not", by decide, _, rfl⟩

/-- What an object with the given members spells, as long as its parts are read: the check that it
has the members of, or, with one member only, the connective that this is, over what the parts are
read as, in their order. -/
inductive SpelledBy : Dict Json → Logic → Prop
  | check {members : Dict Json} {c : Condition} :
      c.SpelledBy members → SpelledBy members (.check c)
  | and {vs : List Json} {parts : List Logic} :
      List.Forall₂ (fun v p => decode v = .ok p) vs parts →
      SpelledBy [("and", .array vs)] (.and parts)
  | or {vs : List Json} {parts : List Logic} :
      List.Forall₂ (fun v p => decode v = .ok p) vs parts →
      SpelledBy [("or", .array vs)] (.or parts)
  | not {v : Json} {part : Logic} : decode v = .ok part → SpelledBy [("not", v)] (.not part)

/-- An object whose operator, if it has one, is a text is read as the tree that it spells. -/
theorem decode_object_iff {members : Dict Json} {l : Logic} (hnames : members.names.Nodup)
    (hoperator : ∀ v, Dict.get? members "operator" = some v → ∃ name, v = .string name) :
    decode (.object members) = .ok l ↔ SpelledBy members l := by
  rw [decode_eq_ok_iff]
  constructor
  · intro h
    cases l with
    | check c =>
      exact .check ((Condition.decode_object_iff hnames hoperator).mp (read?_eq_some h))
    | and parts =>
      obtain ⟨vs, hv, hparts⟩ := read?_eq_some h
      obtain rfl := Json.object.inj hv
      exact .and (by simpa only [decode_eq_ok_iff] using readAll?_eq_some_iff.mp hparts)
    | or parts =>
      obtain ⟨vs, hv, hparts⟩ := read?_eq_some h
      obtain rfl := Json.object.inj hv
      exact .or (by simpa only [decode_eq_ok_iff] using readAll?_eq_some_iff.mp hparts)
    | not part =>
      obtain ⟨w, hv, hpart⟩ := read?_eq_some h
      obtain rfl := Json.object.inj hv
      exact .not (decode_eq_ok_iff.mpr hpart)
  · intro h
    cases h with
    | check hc => exact read?_of_decode ((Condition.decode_object_iff hnames hoperator).mpr hc)
    | and hparts =>
      simp only [decode_eq_ok_iff] at hparts
      rw [read?_and, readAll?_eq_some_iff.mpr hparts, Option.map_some]
    | or hparts =>
      simp only [decode_eq_ok_iff] at hparts
      rw [read?_or, readAll?_eq_some_iff.mpr hparts, Option.map_some]
    | not hpart => rw [read?_not, decode_eq_ok_iff.mp hpart, Option.map_some]

/-- An object with a member "field" is read as nothing but a check. -/
theorem eq_check_of_field {members : Dict Json} {l : Logic}
    (hfield : (Dict.get? members "field").isSome) (h : decode (.object members) = .ok l) :
    ∃ c, l = .check c := by
  rcases eq_check_or_connective (decode_eq_ok_iff.mp h) with hcheck | ⟨name, hname, w, hobject⟩
  · exact hcheck
  · obtain rfl := Json.object.inj hobject
    -- the one member has the name of a connective
    have hne : name ≠ "field" := by
      rintro rfl
      exact absurd hname (by decide)
    rw [Dict.get?_cons, if_neg hne] at hfield
    exact absurd hfield (by simp)

/-! ## Nodes of a tree -/

/-- `NodeOf w v`: `w` is a node of the tree that `v` is written as — `v` itself, or a node of a part
under one of its connectives. -/
inductive NodeOf (w : Json) : Json → Prop
  | self : NodeOf w w
  | and {v : Json} {vs : List Json} : v ∈ vs → NodeOf w v → NodeOf w (.object [("and", .array vs)])
  | or {v : Json} {vs : List Json} : v ∈ vs → NodeOf w v → NodeOf w (.object [("or", .array vs)])
  | not {v : Json} : NodeOf w v → NodeOf w (.object [("not", v)])

/-- Where a list of documents is read, each of them is. -/
theorem exists_read?_of_mem (h : readAll? vs = some parts) (hv : v ∈ vs) :
    ∃ p, read? v = some p := by
  obtain ⟨i, hi, rfl⟩ := List.mem_iff_getElem.mp hv
  have hall := readAll?_eq_some_iff.mp h
  have hparts : i < parts.length := hall.length_eq ▸ hi
  exact ⟨parts.get ⟨i, hparts⟩, hall.get hi hparts⟩

/-- A tree is read only where every node of it is. -/
theorem decode_of_node (hnode : NodeOf w v) {l : Logic} (h : decode v = .ok l) :
    ∃ p, decode w = .ok p := by
  simp only [decode_eq_ok_iff] at h ⊢
  induction hnode generalizing l with
  | self => exact ⟨l, h⟩
  | and hv _ ih =>
    rw [read?_and] at h
    obtain ⟨parts, hparts, -⟩ := Option.map_eq_some_iff.mp h
    obtain ⟨p, hp⟩ := exists_read?_of_mem hparts hv
    exact ih hp
  | or hv _ ih =>
    rw [read?_or] at h
    obtain ⟨parts, hparts, -⟩ := Option.map_eq_some_iff.mp h
    obtain ⟨p, hp⟩ := exists_read?_of_mem hparts hv
    exact ih hp
  | not _ ih =>
    rw [read?_not] at h
    obtain ⟨part, hpart, -⟩ := Option.map_eq_some_iff.mp h
    exact ih hpart

/-- What is read as no tree is refused with one wording. -/
theorem decode_eq_error_of_read? (h : read? v = none) :
    decode v = .error (.noVariantMatches typeName) := by
  rw [decode, h]

/-- One node that is refused refuses the whole tree. -/
theorem decode_eq_error_of_node (hnode : NodeOf w v) {e : ShapeError} (h : decode w = .error e) :
    decode v = .error (.noVariantMatches typeName) := by
  refine decode_eq_error_of_read? (Option.eq_none_iff_forall_ne_some.mpr fun l hl => ?_)
  obtain ⟨p, hp⟩ := decode_of_node hnode (decode_eq_ok_iff.mpr hl)
  rw [h] at hp
  cases hp

/-- Conditions are told apart by shape.  An object whose operator, if it has one, is a text is read
as the check or the connective that it spells, and as nothing else; one with a field is never read
as a connective; and one node that is refused, however deep, refuses the whole. -/
theorem decode_by_shape {members : Dict Json} (hnames : members.names.Nodup)
    (hoperator : ∀ v, Dict.get? members "operator" = some v → ∃ name, v = .string name) :
    (∀ l, decode (.object members) = .ok l ↔ SpelledBy members l)
    ∧ ((Dict.get? members "field").isSome →
        ∀ l, decode (.object members) = .ok l → ∃ c, l = .check c)
    ∧ ∀ w e, NodeOf w (.object members) → decode w = .error e →
        decode (.object members) = .error (.noVariantMatches typeName) :=
  ⟨fun _ => decode_object_iff hnames hoperator, fun hfield _ h => eq_check_of_field hfield h,
    fun _ _ hnode h => decode_eq_error_of_node hnode h⟩

end Logic

/-! ## Conditions for admission -/

namespace Admission

/-- An age under an operator that is not known, with a member that looks like a connective. -/
def age : Dict Json :=
  [("and", .array []), ("field", .string "age"), ("operator", .string "atLeast"),
    ("value", .null), ("values", .array [])]

/-- A ticket that has to be given. -/
def ticket : Json :=
  .object [("field", .string "ticket"), ("operator", .string "isNotEmpty")]

/-- A check without a field of its own. -/
def nameless : Json := .object [("field", .null), ("operator", .string "isEmpty")]

/-- A ticket, or the opposite of the check without a field. -/
def admission : Dict Json := [("or", .array [ticket, .object [("not", nameless)]])]

theorem age_spells : Logic.SpelledBy age (.check ⟨"age", .unknown, none, some []⟩) := by
  refine .check ⟨rfl, ⟨"atLeast", rfl, .unknown (by decide)⟩, fun v => ?_, Or.inl rfl⟩
  have hvalue : Dict.get? age "value" = some .null := rfl
  constructor
  · rintro ⟨⟩
  · rintro ⟨hget, hnull⟩
    exact absurd (Option.some.inj (hget.symm.trans hvalue)) hnull

/-- The nameless check is a node of the conditions, below both connectives. -/
theorem nameless_node : Logic.NodeOf nameless (.object admission) :=
  .or (List.mem_cons_of_mem _ List.mem_cons_self) (.not .self)

/-- The age is read as a check, though it has a member "and"; the admission is refused for the one
check without a field. -/
theorem age_read_admission_refused :
    age.names.Nodup ∧ admission.names.Nodup
    ∧ (∀ v, Dict.get? age "operator" = some v → ∃ name, v = .string name)
    ∧ (∀ v, Dict.get? admission "operator" = some v → ∃ name, v = .string name)
    ∧ Logic.decode (.object age) = .ok (.check ⟨"age", .unknown, none, some []⟩)
    ∧ Logic.decode nameless = .error (.noVariantMatches "ConditionalLogic")
    ∧ Logic.decode (.object admission) = .error (.noVariantMatches "ConditionalLogic") := by
  have hage : ∀ v, Dict.get? age "operator" = some v → ∃ name, v = .string name := by
    rintro v ⟨⟩
    exact ⟨"atLeast", rfl⟩
  have hadmission : ∀ v, Dict.get? admission "operator" = some v → ∃ name, v = .string name := by
    rintro v ⟨⟩
  have hnameless : Logic.decode nameless = .error (.noVariantMatches "ConditionalLogic") := by rfl
  refine ⟨by decide, by decide, hage, hadmission, ?_, hnameless, ?_⟩
  · exact ((Logic.decode_by_shape (by decide) hage).1 _).mpr age_spells
  · exact (Logic.decode_by_shape (by decide) hadmission).2.2 nameless _ nameless_node hnameless

end Admission
end FormLogic
