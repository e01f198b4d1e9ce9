/-
  FormLogic.Proofs.Condition.RoundTrip

  Conditions written and read back.

  A value that is null is written like any other, but read as no value at
  all.  So a tree is read back without its null values (`withoutNulls`), and
  a tree that was read has none.

    * `Condition.decode_encode` — one condition, written and read.
    * `Logic.read?_encode` — a tree, written and read: a condition is read as
      a condition, and each connective as itself.
    * `Logic.read?_encode_of_read?` — a tree that was read is read back.
-/

import FormLogic.Condition.Codec
import FormLogic.Proofs.Json.Record

namespace FormLogic

/-! ## Operators -/

namespace Operator

@[simp] theorem ofName_name (o : Operator) : ofName o.name = o := by
  cases o <;> rfl

theorem decode_encode (o : Operator) : decode o.encode = .ok o := by
  simp [decode, encode, Json.asNamed]

end Operator

/-! ## Conditions -/

namespace Condition

/-- The members of a condition. -/
def table : List (Json.Member Draft) := [
  ⟨_, "field", Draft.field, fun d x => { d with field := x }, fun v => v.asString.map some⟩,
  ⟨_, "operator", Draft.operator, fun d x => { d with operator := x },
    fun v => (Operator.decode v).map some⟩,
  ⟨_, "value", Draft.value, fun d x => { d with value := x }, Json.asOption .ok⟩,
  ⟨_, "values", Draft.values, fun d x => { d with values := x }, Json.asOption Json.asList⟩]

theorem isTable : Json.Table shape table fun d _ _ => d where
  read_member := by simp [table, shape, Except.map_map]
  read_other := by
    intro d name v h
    simp only [table, List.map_cons, List.map_nil, List.mem_cons, not_or] at h
    simp only [shape]
    split <;> simp_all
  get_set := by simp [table]
  get_set_of_ne := by simp [table]
  get_other := by simp

/-- A condition with no value where it has null. -/
def withoutNull (c : Condition) : Condition := { c with value := Json.dropNull c.value }

/-- Written and read back, a condition is the same but for a null value. -/
theorem decode_encode (c : Condition) : decode c.encode = .ok c.withoutNull := by
  refine isTable.decode_ofMembers
    (t := ⟨some c.field, some c.operator, Json.dropNull c.value, c.values⟩) ?_ ?_
  · simp only [table, List.forall_mem_cons, List.not_mem_nil, false_imp_iff,
      implies_true, and_true]
    refine ⟨?_, ?_, ?_, ?_⟩
    · exact Json.readMember_given (.string c.field) (by simp) rfl
    · exact Json.readMember_given c.operator.encode (by simp)
        (by rw [Operator.decode_encode]; rfl)
    · exact Json.readMember_value (by simp)
    · exact Json.readMember_optional .array (by simp) fun _ _ => ⟨by simp, rfl⟩
  · rintro d - hparts
    simp only [table, List.forall_mem_cons, List.not_mem_nil, false_imp_iff,
      implies_true, and_true] at hparts
    obtain ⟨hfield, hoperator, hvalue, hvalues⟩ := hparts
    simp only [Draft.finish, hfield, hoperator, hvalue, hvalues]
    rfl

/-- A condition that was read has no null value. -/
theorem withoutNull_of_decode {v : Json} {c : Condition} (h : decode v = .ok c) :
    c.withoutNull = c := by
  obtain ⟨d, hd, hfinish⟩ := Json.RecordShape.decode_eq_ok h
  have hvalue : d.value ≠ some .null := by
    have hparts := isTable.get_of_readMembers hd
    simp only [table, List.forall_mem_cons] at hparts
    obtain ⟨-, -, hnone | ⟨w, -, hw⟩, -⟩ := hparts
    · rw [hnone]
      exact (Option.some_ne_none _).symm
    · exact Json.ne_null_of_asOption hw
  have hc : c.value = d.value := by
    simp only [Draft.finish] at hfinish
    split at hfinish
    · rw [← Except.ok.inj hfinish]
    · cases hfinish
    · cases hfinish
  rw [withoutNull, Json.dropNull_eq_self (hc ▸ hvalue)]

/-- An object without a member "field" is no condition. -/
theorem toOption_decode_connective {name : String} (h : name ∈ Logic.connectives) (v : Json) :
    (decode (.object [(name, v)])).toOption = none := by
  simp only [Logic.connectives, List.mem_cons, List.not_mem_nil, or_false] at h
  obtain rfl | rfl | rfl := h <;> rfl

end Condition

/-! ## Trees -/

namespace Logic

mutual

/-- A tree without null values. -/
def withoutNulls : Logic → Logic
  | .check c => .check c.withoutNull
  | .and parts => .and (withoutNullsAll parts)
  | .or parts => .or (withoutNullsAll parts)
  | .not part => .not (withoutNulls part)

/-- A list of trees without null values. -/
def withoutNullsAll : List Logic → List Logic
  | [] => []
  | p :: ps => withoutNulls p :: withoutNullsAll ps

end

/-- What reads as a condition stands for it. -/
theorem read?_of_decode {v : Json} {c : Condition} (h : Condition.decode v = .ok c) :
    read? v = some (.check c) := by
  rw [read?.eq_def, h]
  rfl

mutual

/-- Written and read back, a tree is the same but for null values. -/
theorem read?_encode : ∀ l : Logic, read? l.encode = some l.withoutNulls
  | .check c => read?_of_decode c.decode_encode
  | .and parts => by
    rw [encode, read?, Condition.toOption_decode_connective (by decide)]
    simp only [readAll?_encodeAll parts]
    rfl
  | .or parts => by
    rw [encode, read?, Condition.toOption_decode_connective (by decide)]
    simp only [readAll?_encodeAll parts]
    rfl
  | .not part => by
    rw [encode, read?, Condition.toOption_decode_connective (by decide)]
    simp only [read?_encode part]
    rfl

theorem readAll?_encodeAll : ∀ parts : List Logic,
    readAll? (encodeAll parts) = some (withoutNullsAll parts)
  | [] => rfl
  | p :: ps => by
    rw [encodeAll, readAll?, read?_encode p, readAll?_encodeAll ps]
    rfl

end

/-- What a document that stands for a tree looks like. -/
theorem read?_eq_some {v : Json} {l : Logic} (h : read? v = some l) :
    match l with
    | .check c => Condition.decode v = .ok c
    | .and parts => ∃ vs, v = .object [("and", .array vs)] ∧ readAll? vs = some parts
    | .or parts => ∃ vs, v = .object [("or", .array vs)] ∧ readAll? vs = some parts
    | .not part => ∃ w, v = .object [("not", w)] ∧ read? w = some part := by
  rw [read?.eq_def] at h
  -- a condition comes first, and a connective only where there is none
  split at h
  · next c hc =>
    obtain rfl := Option.some.inj h
    cases hd : Condition.decode v with
    | ok d =>
      rw [hd] at hc
      obtain rfl := Option.some.inj hc
      rfl
    | error e =>
      rw [hd] at hc
      cases hc
  · split at h
    · obtain ⟨parts, hparts, rfl⟩ := Option.map_eq_some_iff.mp h
      exact ⟨_, rfl, hparts⟩
    · obtain ⟨parts, hparts, rfl⟩ := Option.map_eq_some_iff.mp h
      exact ⟨_, rfl, hparts⟩
    · obtain ⟨part, hpart, rfl⟩ := Option.map_eq_some_iff.mp h
      exact ⟨_, rfl, hpart⟩
    · cases h

theorem readAll?_cons_eq_some {v : Json} {vs : List Json} {parts : List Logic}
    (h : readAll? (v :: vs) = some parts) :
    ∃ p ps, parts = p :: ps ∧ read? v = some p ∧ readAll? vs = some ps := by
  rw [readAll?] at h
  split at h
  · next p ps hp hps => exact ⟨p, ps, (Option.some.inj h).symm, hp, hps⟩
  · cases h

mutual

/-- A tree that was read has no null values. -/
theorem withoutNulls_of_read? : ∀ (l : Logic) (v : Json), read? v = some l → l.withoutNulls = l
  | .check c, v, h => by
    rw [withoutNulls, Condition.withoutNull_of_decode (read?_eq_some h)]
  | .and parts, v, h => by
    obtain ⟨vs, -, hparts⟩ := read?_eq_some h
    rw [withoutNulls, withoutNullsAll_of_readAll? parts vs hparts]
  | .or parts, v, h => by
    obtain ⟨vs, -, hparts⟩ := read?_eq_some h
    rw [withoutNulls, withoutNullsAll_of_readAll? parts vs hparts]
  | .not part, v, h => by
    obtain ⟨w, -, hpart⟩ := read?_eq_some h
    rw [withoutNulls, withoutNulls_of_read? part w hpart]

theorem withoutNullsAll_of_readAll? : ∀ (parts : List Logic) (vs : List Json),
    readAll? vs = some parts → withoutNullsAll parts = parts
  | [], _, _ => rfl
  | p :: ps, [], h => by cases h
  | p :: ps, v :: vs, h => by
    obtain ⟨p', ps', heq, hp, hps⟩ := readAll?_cons_eq_some h
    obtain ⟨rfl, rfl⟩ := List.cons.inj heq
    rw [withoutNullsAll, withoutNulls_of_read? p v hp, withoutNullsAll_of_readAll? ps vs hps]

end

/-- A tree that was read is written as what it is read from again. -/
theorem read?_encode_of_read? {v : Json} {l : Logic} (h : read? v = some l) :
    read? l.encode = some l := by
  rw [read?_encode, withoutNulls_of_read? l v h]

/-- A tree is written as an object. -/
theorem encode_eq_object (l : Logic) : ∃ members, l.encode = .object members := by
  cases l with
  | check c => exact ⟨_, rfl⟩
  | and parts => exact ⟨_, rfl⟩
  | or parts => exact ⟨_, rfl⟩
  | not part => exact ⟨_, rfl⟩

theorem encode_ne_null (l : Logic) : l.encode ≠ .null := by
  obtain ⟨members, hobject⟩ := l.encode_eq_object
  simp [hobject]

theorem decode_eq_ok_iff {v : Json} {l : Logic} : decode v = .ok l ↔ read? v = some l := by
  rw [decode]
  split
  · next l' hl => rw [hl, Except.ok.injEq, Option.some.injEq]
  · next hnone => simp [hnone]

/-- A tree that was read is read back as it was written. -/
theorem read_back_of_decode {v : Json} {l : Logic} (h : decode v = .ok l) :
    decode l.encode = .ok l :=
  decode_eq_ok_iff.mpr (read?_encode_of_read? (decode_eq_ok_iff.mp h))

/-- A member with a tree is read as it was written where the tree is read back. -/
theorem readMember_encode {object : Dict Json} {name : String} {x : Option Logic}
    (h : Dict.get? object name = x.map encode) (hx : ∀ l ∈ x, decode l.encode = .ok l) :
    Json.readMember object name (Json.asOption decode) none = .ok x :=
  Json.readMember_optional encode h fun l hl => ⟨l.encode_ne_null, hx l hl⟩

end Logic

/-- A member with expected values is read as it was written. -/
theorem CompactConditions.readMember_encode {object : Dict Json} {name : String}
    {x : Option CompactConditions} (h : Dict.get? object name = x.map encode) :
    Json.readMember object name (Json.asOption decode) none = .ok x :=
  Json.readMember_optional encode h fun _ _ => ⟨by simp [encode], rfl⟩

end FormLogic
