/-
  FormLogic.Proofs.Json.Record

  Records read from the members of an object.

  A record is read member by member into a draft.  A table says for each
  member of a record where the draft keeps it and how its value is read; that
  members do not get into each other's way is checked once for the table.
  Then every member can be looked at by itself, in whatever order the object
  has them (`readMember`):

    * `Table.readMember_of_readMembers` — of a draft that was read, each part
      is what its own member reads as.
    * `Table.readMembers_of_readMember` — a draft of given parts is read where
      each member reads as its part.
    * `get?_ofList_append`, `get?_ofList_optionalMember` — what is found in a
      record as it is written.
-/

import FormLogic.Json.Shape
import FormLogic.Proofs.Dict
import FormLogic.Proofs.Except

namespace FormLogic
namespace Json

/-! ## Plain values -/

@[simp] theorem asNatural_ofNat (n : Nat) : asNatural (ofNat n) = .ok n := by
  rw [ofNat, asNatural, if_neg (Int.not_lt.mpr (Int.natCast_nonneg n)), Int.toNat_natCast]

@[simp] theorem asListOf_asString_ofTexts (texts : List String) :
    asListOf asString (ofTexts texts) = .ok texts := by
  show (texts.map Json.string).mapM asString = .ok texts
  induction texts with
  | nil => rfl
  | cons text texts ih =>
    rw [List.map_cons, List.mapM_cons, ih]
    rfl

@[simp] theorem asTexts_ofTextDict (d : Dict String) : asTexts (ofTextDict d) = .ok d := by
  show (d.map fun p => (p.1, Json.string p.2)).mapM
    (fun m => (asString m.2).map fun s => (m.1, s)) = .ok d
  induction d with
  | nil => rfl
  | cons p d ih =>
    rw [List.map_cons, List.mapM_cons, ih]
    rfl

theorem asString_eq_ok_iff {v : Json} {s : String} : asString v = .ok s ↔ v = .string s := by
  cases v <;> simp [asString, mismatch]

theorem asMap_eq_ok_iff {v : Json} {members : Dict Json} :
    asMap v = .ok members ↔ v = .object members := by
  cases v <;> simp [asMap, mismatch]

/-- A map of texts is read from an object of texts, and from nothing else. -/
theorem asTexts_eq_ok_iff {v : Json} {d : Dict String} : asTexts v = .ok d ↔ v = ofTextDict d := by
  constructor
  · intro h
    obtain ⟨members, hmap, hread⟩ := Except.bind_eq_ok.mp h
    obtain rfl := asMap_eq_ok_iff.mp hmap
    clear h hmap
    induction members generalizing d with
    | nil =>
      obtain rfl := Except.ok.inj hread
      rfl
    | cons m members ih =>
      rw [List.mapM_cons] at hread
      obtain ⟨text, htext, hread⟩ := Except.bind_eq_ok.mp hread
      obtain ⟨texts, htexts, hread⟩ := Except.bind_eq_ok.mp hread
      obtain ⟨s, hs, rfl⟩ := Except.map_eq_ok.mp htext
      obtain rfl := Except.ok.inj hread
      -- the member in front is a text, and the others are by induction
      have hrest := Json.object.inj (ih htexts)
      rw [hrest, ofTextDict, List.map_cons, ← asString_eq_ok_iff.mp hs]
  · rintro rfl
    exact asTexts_ofTextDict d

/-! ## One member -/

/-- What the member of a name reads as, and what stands for it where there is none. -/
def readMember {α : Type} (members : Dict Json) (name : String) (read : Json → Shaped α)
    (missing : α) : Shaped α :=
  match Dict.get? members name with
  | none => .ok missing
  | some v => read v

section

variable {α : Type} {members : Dict Json} {name : String} {read : Json → Shaped α} {missing x : α}

theorem readMember_of_none (h : Dict.get? members name = none) :
    readMember members name read missing = .ok missing := by
  rw [readMember, h]

theorem readMember_of_some {v : Json} (h : Dict.get? members name = some v) :
    readMember members name read missing = read v := by
  rw [readMember, h]

/-- A member is read from a value, unless it is missing. -/
theorem readMember_eq_ok_iff : readMember members name read missing = .ok x ↔
    (Dict.get? members name = none ∧ x = missing)
      ∨ ∃ v, Dict.get? members name = some v ∧ read v = .ok x := by
  rw [readMember]
  cases Dict.get? members name with
  | none => simp [eq_comm]
  | some v => simp

end

/-- A value other than null is read as what it stands for. -/
theorem asOption_of_ne_null {α : Type} {read : Json → Shaped α} {v : Json} (h : v ≠ .null) :
    asOption read v = (read v).map some := by
  cases v with
  | null => exact absurd rfl h
  | _ => rfl

/-- What is read from a value that may be null is read from the value. -/
theorem asOption_eq_some {α : Type} {read : Json → Shaped α} {v : Json} {a : α}
    (h : asOption read v = .ok (some a)) : v ≠ .null ∧ read v = .ok a := by
  by_cases hv : v = .null
  · subst hv
    cases h
  · rw [asOption_of_ne_null hv] at h
    obtain ⟨b, hb, heq⟩ := Except.map_eq_ok.mp h
    exact ⟨hv, Option.some.inj heq ▸ hb⟩

/-- A part that may be missing is missing or was read from a member. -/
theorem exists_read_of_mem {α : Type} {object : Dict Json} {name : String} {read : Json → Shaped α}
    {x : Option α}
    (h : x = none ∨ ∃ v, (name, v) ∈ object ∧ asOption read v = .ok x) :
    ∀ a ∈ x, ∃ v, (name, v) ∈ object ∧ read v = .ok a := by
  rintro a rfl
  rcases h with hnone | ⟨v, hv, hread⟩
  · cases hnone
  · exact ⟨v, hv, (asOption_eq_some hread).2⟩

/-! ## Tables -/

/-- A member of a record: its name, where a draft keeps it, and how its value is read. -/
structure Member (δ : Type) where
  Content : Type
  name : String
  get : δ → Content
  set : δ → Content → δ
  read : Json → Shaped Content

/-- A table describes how a record is read: each of its members sets its own part of a draft, and
a member that is not in the table sets none of these parts. -/
structure Table {δ : Type} (shape : RecordShape δ) (members : List (Member δ))
    (other : δ → String → Json → δ) : Prop where
  read_member : ∀ m ∈ members, ∀ d v, shape.read d m.name v = (m.read v).map (m.set d)
  read_other : ∀ d name v, name ∉ members.map Member.name →
    shape.read d name v = .ok (other d name v)
  get_set : ∀ m ∈ members, ∀ d x, m.get (m.set d x) = x
  get_set_of_ne : ∀ m ∈ members, ∀ n ∈ members, m.name ≠ n.name → ∀ d x,
    m.get (n.set d x) = m.get d
  get_other : ∀ m ∈ members, ∀ d name v, m.get (other d name v) = m.get d

namespace Table

variable {δ : Type} {shape : RecordShape δ} {members : List (Member δ)}
  {other : δ → String → Json → δ} {m : Member δ} {d d' : δ} {object : Dict Json}

/-- Reading goes on with the draft that the member in front leaves. -/
theorem readMembers_cons {name : String} {v : Json} {rest : Dict Json} :
    shape.readMembers d ((name, v) :: rest) = .ok d' ↔
      ∃ d₁, shape.read d name v = .ok d₁ ∧ shape.readMembers d₁ rest = .ok d' := by
  rw [RecordShape.readMembers, List.foldlM_cons, Except.bind_eq_ok]
  rfl

/-- Reading a member of another name leaves a part of the draft as it is. -/
theorem get_read_of_ne (ht : Table shape members other) (hm : m ∈ members) {name : String}
    {v : Json} (hne : name ≠ m.name) (h : shape.read d name v = .ok d') : m.get d' = m.get d := by
  by_cases hname : name ∈ members.map Member.name
  · obtain ⟨n, hn, rfl⟩ := List.mem_map.mp hname
    rw [ht.read_member n hn] at h
    obtain ⟨x, -, rfl⟩ := Except.map_eq_ok.mp h
    exact ht.get_set_of_ne m hm n hn (Ne.symm hne) d x
  · rw [ht.read_other d name v hname] at h
    obtain rfl := Except.ok.inj h
    exact ht.get_other m hm d name v

/-- Reading a member sets its part of the draft to what the member reads as. -/
theorem read_get (ht : Table shape members other) (hm : m ∈ members) {v : Json}
    (h : shape.read d m.name v = .ok d') : m.read v = .ok (m.get d') := by
  rw [ht.read_member m hm] at h
  obtain ⟨x, hx, rfl⟩ := Except.map_eq_ok.mp h
  rw [ht.get_set m hm, hx]

/-- Of a draft that was read, each part is as it was or was read from a member of its name. -/
theorem get_of_readMembers (ht : Table shape members other)
    (h : shape.readMembers d object = .ok d') : ∀ m ∈ members,
      m.get d' = m.get d ∨ ∃ v, (m.name, v) ∈ object ∧ m.read v = .ok (m.get d') := by
  intro m hm
  induction object generalizing d with
  | nil =>
    obtain rfl := Except.ok.inj h
    exact Or.inl rfl
  | cons p rest ih =>
    obtain ⟨name, v⟩ := p
    obtain ⟨d₁, hread, hrest⟩ := readMembers_cons.mp h
    rcases ih hrest with hsame | ⟨w, hw, hlater⟩
    · by_cases hname : name = m.name
      · subst hname
        exact Or.inr ⟨v, List.mem_cons_self, hsame ▸ ht.read_get hm hread⟩
      · exact Or.inl (hsame.trans (ht.get_read_of_ne hm hname hread))
    · exact Or.inr ⟨w, List.mem_cons_of_mem _ hw, hlater⟩

/-- What no member of the table sets stays as it is. -/
theorem eq_of_readMembers (ht : Table shape members other) {β : Type} {f : δ → β}
    (hset : ∀ m ∈ members, ∀ d x, f (m.set d x) = f d)
    (hother : ∀ d name v, f (other d name v) = f d)
    (h : shape.readMembers d object = .ok d') : f d' = f d := by
  induction object generalizing d with
  | nil => exact congrArg f (Except.ok.inj h).symm
  | cons p rest ih =>
    obtain ⟨name, v⟩ := p
    obtain ⟨d₁, hread, hrest⟩ := readMembers_cons.mp h
    refine (ih hrest).trans ?_
    by_cases hname : name ∈ members.map Member.name
    · obtain ⟨n, hn, rfl⟩ := List.mem_map.mp hname
      rw [ht.read_member n hn] at hread
      obtain ⟨x, -, rfl⟩ := Except.map_eq_ok.mp hread
      exact hset n hn d x
    · rw [ht.read_other d name v hname] at hread
      obtain rfl := Except.ok.inj hread
      exact hother d name v

/-- Of a draft that was read, each part is what its own member reads as. -/
theorem readMember_of_readMembers (ht : Table shape members other)
    (hnodup : object.names.Nodup) (h : shape.readMembers d object = .ok d') :
    ∀ m ∈ members, readMember object m.name m.read (m.get d) = .ok (m.get d') := by
  intro m hm
  induction object generalizing d with
  | nil =>
    obtain rfl := Except.ok.inj h
    rfl
  | cons p rest ih =>
    obtain ⟨name, v⟩ := p
    rw [Dict.names_cons, List.nodup_cons] at hnodup
    obtain ⟨d₁, hread, hrest⟩ := readMembers_cons.mp h
    have hlater := ih hnodup.2 hrest
    by_cases hname : name = m.name
    · subst hname
      -- the name does not come up again, so that its part stays as it was read
      have hnone : Dict.get? rest m.name = none := Dict.get?_eq_none_iff.mpr hnodup.1
      rw [readMember_of_none hnone] at hlater
      rw [readMember_of_some (v := v) (by simp [Dict.get?_cons]), ← Except.ok.inj hlater]
      exact ht.read_get hm hread
    · rw [← ht.get_read_of_ne hm hname hread]
      rw [readMember, Dict.get?_cons, if_neg hname]
      exact hlater

/-- A draft is read where every member reads as something. -/
theorem exists_readMembers (ht : Table shape members other)
    (h : ∀ m ∈ members, ∀ v, (m.name, v) ∈ object → ∃ x, m.read v = .ok x) :
    ∃ d', shape.readMembers d object = .ok d' := by
  induction object generalizing d with
  | nil => exact ⟨d, rfl⟩
  | cons p rest ih =>
    obtain ⟨name, v⟩ := p
    obtain ⟨d₁, hread⟩ : ∃ d₁, shape.read d name v = .ok d₁ := by
      by_cases hname : name ∈ members.map Member.name
      · obtain ⟨n, hn, rfl⟩ := List.mem_map.mp hname
        obtain ⟨x, hx⟩ := h n hn v List.mem_cons_self
        exact ⟨n.set d x, by rw [ht.read_member n hn, hx]; rfl⟩
      · exact ⟨_, ht.read_other d name v hname⟩
    obtain ⟨d', hrest⟩ := ih fun m hm w hw => h m hm w (List.mem_cons_of_mem _ hw)
    exact ⟨d', readMembers_cons.mpr ⟨d₁, hread, hrest⟩⟩

/-- A draft of given parts is read where each part is what its own member reads as. -/
theorem readMembers_of_readMember (ht : Table shape members other) (hnodup : object.names.Nodup)
    {t : δ} (h : ∀ m ∈ members, readMember object m.name m.read (m.get d) = .ok (m.get t)) :
    ∃ d', shape.readMembers d object = .ok d' ∧ ∀ m ∈ members, m.get d' = m.get t := by
  obtain ⟨d', hd'⟩ : ∃ d', shape.readMembers d object = .ok d' := by
    refine ht.exists_readMembers fun m hm v hv => ⟨m.get t, ?_⟩
    rw [← h m hm, readMember_of_some ((Dict.get?_eq_some_iff hnodup).mpr hv)]
  refine ⟨d', hd', fun m hm => ?_⟩
  exact Except.ok.inj ((ht.readMember_of_readMembers hnodup hd' m hm).symm.trans (h m hm))

end Table

/-! ## Whole records -/

/-- The members that a document has as a record whose fields are declared in an order. -/
def membersAs (names : List String) : Json → Dict Json
  | .object members => members
  | .array items => names.zip items
  | _ => []

/-- A record that was read is the finished draft of its members. -/
theorem RecordShape.decode_eq_ok {δ α : Type} {shape : RecordShape δ} {draft : δ}
    {finish : δ → Except String α} {v : Json} {a : α} (h : shape.decode draft finish v = .ok a) :
    ∃ d, shape.readMembers draft (v.membersAs shape.fields) = .ok d ∧ finish d = .ok a := by
  cases v with
  | object members =>
    obtain ⟨d, hd, hfinish⟩ := Except.bind_eq_ok.mp h
    refine ⟨d, hd, ?_⟩
    cases hf : finish d with
    | ok b => simpa [hf] using hfinish
    | error e => simp [hf] at hfinish
  | array items =>
    obtain ⟨d, hd, hfinish⟩ := Except.bind_eq_ok.mp h
    refine ⟨d, hd, ?_⟩
    cases hf : finish d with
    | ok b =>
      simp only [hf] at hfinish
      split at hfinish
      · cases hfinish
      · exact congrArg _ (Except.ok.inj hfinish)
    | error e => simp [hf] at hfinish
  | null => cases h
  | bool b => cases h
  | number n => cases h
  | string s => cases h

/-- An object with the members of a draft is read as the record that the draft makes. -/
theorem RecordShape.decode_object {δ α : Type} {shape : RecordShape δ} {draft d : δ}
    {finish : δ → Except String α} {object : Dict Json} {a : α}
    (hd : shape.readMembers draft object = .ok d) (hfinish : finish d = .ok a) :
    shape.decode draft finish (.object object) = .ok a := by
  simp [RecordShape.decode, hd, hfinish, bind, Except.bind]

/-- A record is read from its members where each of them reads as its part. -/
theorem Table.decode_ofMembers {δ α : Type} {shape : RecordShape δ} {members : List (Member δ)}
    {other : δ → String → Json → δ} (ht : Table shape members other) {draft t : δ}
    {finish : δ → Except String α} {pairs : List (String × Json)} {a : α}
    (h : ∀ m ∈ members,
      readMember (Dict.ofList pairs) m.name m.read (m.get draft) = .ok (m.get t))
    (hfinish : ∀ d, shape.readMembers draft (Dict.ofList pairs) = .ok d →
      (∀ m ∈ members, m.get d = m.get t) → finish d = .ok a) :
    shape.decode draft finish (.ofMembers pairs) = .ok a := by
  obtain ⟨d, hd, hparts⟩ := ht.readMembers_of_readMember (Dict.ordered_ofList pairs).nodup h
  exact RecordShape.decode_object hd (hfinish d hd hparts)

/-! ## Records as they are written -/

section

variable {α : Type} (name : String)

@[simp] theorem get?_ofList_optionalMember (write : α → Json) (x : Option α) (other : String) :
    Dict.get? (Dict.ofList (optionalMember name write x)) other
      = if name = other then x.map write else none := by
  cases x <;> simp [optionalMember, Dict.ofList, Dict.insert, Dict.get?_cons]

@[simp] theorem get?_ofList_listMember (write : List α → Json) (xs : List α) (other : String) :
    Dict.get? (Dict.ofList (listMember name write xs)) other
      = if name = other ∧ xs ≠ [] then some (write xs) else none := by
  cases xs <;> simp [listMember, Dict.ofList, Dict.insert, Dict.get?_cons]

variable {name} {object : Dict Json}

/-- A member that may be missing is read as it was written. -/
theorem readMember_optional (write : α → Json) {read : Json → Shaped α} {x : Option α}
    (h : Dict.get? object name = x.map write)
    (hx : ∀ a ∈ x, write a ≠ .null ∧ read (write a) = .ok a) :
    readMember object name (asOption read) none = .ok x := by
  cases x with
  | none => exact readMember_of_none h
  | some a =>
    obtain ⟨hnull, hread⟩ := hx a rfl
    rw [readMember_of_some h, asOption_of_ne_null hnull, hread]
    rfl

/-- A record is no null. -/
theorem ofMembers_ne_null (members : List (String × Json)) : ofMembers members ≠ .null := by
  simp [ofMembers]

/-- A member that is always there is read as it was written. -/
theorem readMember_given (v : Json) {read : Json → Shaped α} {missing a : α}
    (h : Dict.get? object name = some v) (hv : read v = .ok a) :
    readMember object name read missing = .ok a := by
  rw [readMember_of_some h, hv]

/-- A value that is there and not null. -/
def dropNull : Option Json → Option Json
  | some .null => none
  | v => v

theorem dropNull_eq_self {v : Option Json} (h : v ≠ some .null) : dropNull v = v := by
  rw [dropNull]
  exact h

/-- Reading a value gives no null. -/
theorem ne_null_of_asOption {v : Json} {x : Option Json} (h : asOption .ok v = .ok x) :
    x ≠ some .null := by
  rintro rfl
  obtain ⟨hnull, heq⟩ := asOption_eq_some h
  exact hnull (Except.ok.inj heq)

/-- A value is read as it was written, but null as no value. -/
theorem readMember_value {x : Option Json} (h : Dict.get? object name = x) :
    readMember object name (asOption .ok) none = .ok (dropNull x) := by
  subst h
  rw [readMember]
  cases Dict.get? object name with
  | none => rfl
  | some v => cases v <;> rfl

/-- A value survives being written: it is written, as a document other than null, and read back. -/
def Survives {ε : Type} (read : Json → Shaped α) (write : α → Except ε Json) (a : α) : Prop :=
  ∃ v, write a = .ok v ∧ v ≠ .null ∧ read v = .ok a

/-- A member that may be missing survives where its value does. -/
theorem Survives.readMember {ε : Type} {read : Json → Shaped α} {write : α → Except ε Json}
    {x : Option α} (h : ∀ a ∈ x, Survives read write a) :
    ∃ y : Option Json, x.mapM write = .ok y ∧ ∀ {object : Dict Json} {name : String},
      Dict.get? object name = y → readMember object name (asOption read) none = .ok x := by
  cases x with
  | none => exact ⟨none, rfl, fun hget => readMember_of_none hget⟩
  | some a =>
    obtain ⟨v, hwrite, hnull, hread⟩ := h a rfl
    refine ⟨some v, by rw [Option.mapM_some, hwrite]; rfl, fun hget => ?_⟩
    rw [readMember_of_some hget, asOption_of_ne_null hnull, hread]
    rfl

theorem readMember_text {x : Option String} (h : Dict.get? object name = x.map .string) :
    readMember object name (asOption asString) none = .ok x :=
  readMember_optional .string h fun _ _ => ⟨by simp, rfl⟩

theorem readMember_natural {x : Option Nat} (h : Dict.get? object name = x.map ofNat) :
    readMember object name (asOption asNatural) none = .ok x :=
  readMember_optional ofNat h fun _ _ => ⟨by simp [ofNat], by simp⟩

theorem readMember_real {x : Option Double} (h : Dict.get? object name = x.map ofReal) :
    readMember object name (asOption asReal) none = .ok x :=
  readMember_optional ofReal h fun _ _ => ⟨by simp [ofReal], rfl⟩

/-- A list that is missing when empty is read entry by entry as it was written. -/
theorem readMember_entries {readAll : List Json → Shaped (List α)} {vs : List Json} {xs : List α}
    (h : Dict.get? object name = if vs ≠ [] then some (.array vs) else none)
    (hnil : readAll [] = .ok []) (hvs : readAll vs = .ok xs) :
    readMember object name (fun v => v.asList.bind readAll) [] = .ok xs := by
  cases vs with
  | nil =>
    obtain rfl := Except.ok.inj (hnil.symm.trans hvs)
    exact readMember_of_none (by simpa using h)
  | cons v vs => exact readMember_given (.array (v :: vs)) (by simpa using h) hvs

/-- A list that is missing when empty is read as it was written. -/
theorem readMember_list (write : List α → Json) {read : Json → Shaped (List α)} {xs : List α}
    (h : Dict.get? object name = if xs ≠ [] then some (write xs) else none)
    (hxs : read (write xs) = .ok xs) : readMember object name read [] = .ok xs := by
  cases xs with
  | nil => exact readMember_of_none (by simpa using h)
  | cons x xs => rw [readMember_of_some (by simpa using h), hxs]

end

end Json
end FormLogic
