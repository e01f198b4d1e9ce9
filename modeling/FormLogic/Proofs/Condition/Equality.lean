/-
  FormLogic.Proofs.Condition.Equality

  The equality that conditions compare by.

  Documents are compared part by part: numbers by value, lists entry by
  entry, objects name by name.  For objects of one size it is enough to find
  every name of the one in the other, for the names of an object are not
  repeated: then none is left over on the other side.

    * `Json.agree_of_agree` — two documents that agree with a third one agree.
    * `Dict.forall₂_iff_covers` — members that stand side by side, and members
      that are looked up on one side.
    * `Condition.strictEq_equivalence` — equality is an equivalence, what it
      says of the parts of documents, and that the conditions made of it ask
      the same in both directions.
-/

import Mathlib.Data.List.Forall2
import FormLogic.Condition.Compact
import FormLogic.Proofs.Json.Ordered
import FormLogic.Proofs.Schema.Same

namespace FormLogic

/-! ## Members side by side -/

namespace Dict

variable {α : Type} {R : α → α → Prop} {ms ns : Dict α}

/-- Members of one name stand side by side, with related values. -/
def SideBySide (R : α → α → Prop) : Dict α → Dict α → Prop :=
  List.Forall₂ fun m n => m.1 = n.1 ∧ R m.2 n.2

/-- Every member of one map is found in the other one, with a related value. -/
def Covers (R : α → α → Prop) (ms ns : Dict α) : Prop :=
  ∀ m ∈ ms, ∃ y, get? ns m.1 = some y ∧ R m.2 y

/-- Members that stand side by side are found under the same names. -/
theorem SideBySide.get?_rel (h : SideBySide R ms ns) (name : String) :
    Option.Rel R (get? ms name) (get? ns name) := by
  induction h with
  | nil => exact .none
  | @cons m n _ _ hmn _ ih =>
    obtain ⟨k, x⟩ := m
    obtain ⟨l, y⟩ := n
    obtain ⟨rfl, hxy⟩ := hmn
    rw [get?_cons, get?_cons]
    split
    · exact .some hxy
    · exact ih

/-- Under the same names, in the same order, the members that are found stand side by side. -/
theorem Covers.sideBySide (h : Covers R ms ns) (hnames : names ms = names ns)
    (hnodup : (names ms).Nodup) : SideBySide R ms ns := by
  induction ms generalizing ns with
  | nil =>
    cases ns with
    | nil => exact .nil
    | cons n ns => cases hnames
  | cons m ms ih =>
    cases ns with
    | nil => cases hnames
    | cons n ns =>
      obtain ⟨k, x⟩ := m
      obtain ⟨l, y⟩ := n
      rw [names_cons, names_cons, List.cons.injEq] at hnames
      obtain ⟨rfl, hnames⟩ := hnames
      rw [names_cons, List.nodup_cons] at hnodup
      obtain ⟨z, hz, hxz⟩ := h _ List.mem_cons_self
      rw [get?_cons, if_pos rfl] at hz
      obtain rfl := Option.some.inj hz
      refine .cons ⟨rfl, hxz⟩ (ih (fun m' hm' => ?_) hnames hnodup.2)
      -- the name in front is not that of a later member
      have hmem : m'.1 ∈ names ms := mem_names_of_mem hm'
      have hne : ¬ k = m'.1 := fun heq => hnodup.1 (heq ▸ hmem)
      obtain ⟨w, hw, hrel⟩ := h m' (List.mem_cons_of_mem _ hm')
      rw [get?_cons, if_neg hne] at hw
      exact ⟨w, hw, hrel⟩

/-- Maps that have related values under every name cover one another's members. -/
theorem covers_of_get?_rel (hms : Ordered ms)
    (h : ∀ name, Option.Rel R (get? ms name) (get? ns name)) : Covers R ms ns := by
  intro m hm
  have hrel := h m.1
  rw [(get?_eq_some_iff hms.nodup).mpr hm] at hrel
  cases hy : get? ns m.1 with
  | none =>
    rw [hy] at hrel
    cases hrel
  | some y =>
    rw [hy] at hrel
    cases hrel with
    | some hxy => exact ⟨y, rfl, hxy⟩

/-- Names that are found on one side exactly where they are on the other are the same names. -/
theorem names_eq_of_get?_rel (hms : Ordered ms) (hns : Ordered ns)
    (h : ∀ name, Option.Rel R (get? ms name) (get? ns name)) : names ms = names ns := by
  have hmem : ∀ name, name ∈ names ms ↔ name ∈ names ns := by
    intro name
    rw [← not_iff_not, ← get?_eq_none_iff, ← get?_eq_none_iff]
    have hrel := h name
    generalize get? ms name = x, get? ns name = y at hrel ⊢
    cases hrel <;> simp
  exact names_eq_of_perm hms hns ((List.perm_ext_iff_of_nodup hms.nodup hns.nodup).mpr hmem)

/-- The members of two maps stand side by side exactly if the maps are of one size and every member
of the first is found in the second. -/
theorem sideBySide_iff_covers (hms : Ordered ms) (hns : Ordered ns) :
    SideBySide R ms ns ↔ ms.length = ns.length ∧ Covers R ms ns := by
  constructor
  · intro h
    exact ⟨h.length_eq, covers_of_get?_rel hms h.get?_rel⟩
  · rintro ⟨hlen, hcovers⟩
    -- every name of the first is one of the second; there are as many, so none is left over
    have hsub : names ms ⊆ names ns := by
      intro name hname
      obtain ⟨m, hm, rfl⟩ := List.mem_map.mp hname
      obtain ⟨y, hy, -⟩ := hcovers m hm
      exact mem_names_of_mem (p := (m.1, y)) (mem_of_get? hy)
    exact hcovers.sideBySide (names_eq_of_subset hms hns hlen hsub) hms.nodup

end Dict

/-! ## Agreement -/

namespace Json

/-- Two documents of one kind whose parts are related: numbers of one value, lists of one length
with related entries in each place, objects with the same names and related values under each. -/
inductive Corresponds (R : Json → Json → Prop) : Json → Json → Prop
  | null : Corresponds R .null .null
  | bool (b : Bool) : Corresponds R (.bool b) (.bool b)
  | number {m n : Number} :
      m.toDouble.value = n.toDouble.value → Corresponds R (.number m) (.number n)
  | string (s : String) : Corresponds R (.string s) (.string s)
  | array {xs ys : List Json} :
      List.Forall₂ R xs ys → Corresponds R (.array xs) (.array ys)
  | object {ms ns : Dict Json} :
      (∀ name, Option.Rel R (Dict.get? ms name) (Dict.get? ns name)) →
      Corresponds R (.object ms) (.object ns)

variable {eq eq₁ eq₂ eq₃ : Number → Number → Bool}

mutual

/-- Two documents that agree with a third one agree with each other, if numbers do so. -/
theorem agree_of_agree (heq : ∀ l m n, eq₁ l n = true → eq₂ m n = true → eq₃ l m = true) :
    ∀ u v w : Json, agree eq₁ u w = true → agree eq₂ v w = true → agree eq₃ u v = true
  -- the kind of the first document is that of the third, which is that of the second
  | .null, v, w, h, h' => by
    cases w <;> simp only [agree, Bool.false_eq_true] at h
    cases v <;> simp only [agree, Bool.false_eq_true] at h' ⊢
  | .bool a, v, w, h, h' => by
    cases w <;> simp only [agree, Bool.false_eq_true] at h
    cases v <;> simp only [agree, Bool.false_eq_true] at h' ⊢
    exact beq_iff_eq.mpr ((beq_iff_eq.mp h).trans (beq_iff_eq.mp h').symm)
  | .number l, v, w, h, h' => by
    cases w <;> simp only [agree, Bool.false_eq_true] at h
    cases v <;> simp only [agree, Bool.false_eq_true] at h' ⊢
    exact heq _ _ _ h h'
  | .string s, v, w, h, h' => by
    cases w <;> simp only [agree, Bool.false_eq_true] at h
    cases v <;> simp only [agree, Bool.false_eq_true] at h' ⊢
    exact beq_iff_eq.mpr ((beq_iff_eq.mp h).trans (beq_iff_eq.mp h').symm)
  | .array us, v, w, h, h' => by
    cases w <;> simp only [agree, Bool.false_eq_true] at h
    cases v <;> simp only [agree, Bool.false_eq_true] at h' ⊢
    exact agreeAll_of_agreeAll heq us _ _ h h'
  | .object us, v, w, h, h' => by
    cases w <;> simp only [agree, Bool.false_eq_true] at h
    cases v <;> simp only [agree, Bool.false_eq_true] at h' ⊢
    exact agreeMembers_of_agreeMembers heq us _ _ h h'

theorem agreeAll_of_agreeAll
    (heq : ∀ l m n, eq₁ l n = true → eq₂ m n = true → eq₃ l m = true) :
    ∀ us vs ws : List Json, agreeAll eq₁ us ws = true → agreeAll eq₂ vs ws = true →
      agreeAll eq₃ us vs = true
  | [], vs, ws, h, h' => by
    cases ws <;> simp only [agreeAll, Bool.false_eq_true] at h
    cases vs <;> simp only [agreeAll, Bool.false_eq_true] at h' ⊢
  | u :: us, vs, ws, h, h' => by
    cases ws <;> simp only [agreeAll, Bool.false_eq_true, Bool.and_eq_true] at h
    cases vs <;> simp only [agreeAll, Bool.false_eq_true, Bool.and_eq_true] at h' ⊢
    exact ⟨agree_of_agree heq u _ _ h.1 h'.1, agreeAll_of_agreeAll heq us _ _ h.2 h'.2⟩

theorem agreeMembers_of_agreeMembers
    (heq : ∀ l m n, eq₁ l n = true → eq₂ m n = true → eq₃ l m = true) :
    ∀ us vs ws : List (String × Json), agreeMembers eq₁ us ws = true →
      agreeMembers eq₂ vs ws = true → agreeMembers eq₃ us vs = true
  | [], vs, ws, h, h' => by
    cases ws <;> simp only [agreeMembers, Bool.false_eq_true] at h
    cases vs <;> simp only [agreeMembers, Bool.false_eq_true] at h' ⊢
  | (k, u) :: us, vs, ws, h, h' => by
    cases ws <;> simp only [agreeMembers, Bool.false_eq_true, Bool.and_eq_true, beq_iff_eq] at h
    cases vs <;>
      simp only [agreeMembers, Bool.false_eq_true, Bool.and_eq_true, beq_iff_eq] at h' ⊢
    exact ⟨⟨h.1.1.trans h'.1.1.symm, agree_of_agree heq u _ _ h.1.2 h'.1.2⟩,
      agreeMembers_of_agreeMembers heq us _ _ h.2 h'.2⟩

end

theorem agreeAll_iff_forall₂ {xs ys : List Json} :
    agreeAll eq xs ys = true ↔ List.Forall₂ (fun x y => agree eq x y = true) xs ys := by
  induction xs generalizing ys with
  | nil => cases ys <;> simp [agreeAll]
  | cons x xs ih => cases ys <;> simp [agreeAll, ih]

theorem agreeMembers_iff_sideBySide {ms ns : Dict Json} :
    agreeMembers eq ms ns = true ↔ Dict.SideBySide (fun x y => agree eq x y = true) ms ns := by
  rw [Dict.SideBySide]
  induction ms generalizing ns with
  | nil => cases ns <;> simp [agreeMembers]
  | cons m ms ih => cases ns <;> simp [agreeMembers, ih]

end Json

/-! ## Equality of documents -/

namespace Condition

variable {a b c : Json} {ms ns : Dict Json}

/-- Two documents that equal a third one, in one sense or another, equal each other. -/
theorem strictEq_of_strictEq (h : strictEq a c = true) (h' : strictEq b c = true) :
    strictEq a b = true := by
  refine Json.agree_of_agree (fun l m n hl hm => ?_) a b c h h'
  exact beq_iff_eq.mpr ((beq_iff_eq.mp hl).trans (beq_iff_eq.mp hm).symm)

theorem strictEq_self (a : Json) : strictEq a a = true :=
  Json.agree_self (fun n => n.toDouble.same_self) a

theorem strictEq_comm (a b : Json) : strictEq a b = strictEq b a := by
  rw [Bool.eq_iff_iff]
  exact ⟨strictEq_of_strictEq (strictEq_self b), strictEq_of_strictEq (strictEq_self a)⟩

theorem strictEq_trans (h : strictEq a b = true) (h' : strictEq b c = true) :
    strictEq a c = true := by
  rw [strictEq_comm] at h'
  exact strictEq_of_strictEq h h'

/-- Documents that are the same are equal. -/
theorem strictEq_of_same (h : Json.same a b = true) : strictEq a b = true := by
  refine Json.agree_of_agree (fun l m n hl hm => ?_) a b b h (strictEq_self b)
  -- the same number is the same integer or has the same value
  have hvalue : l.toDouble.value = n.toDouble.value := by
    cases l <;> cases n <;> simp_all [Number.same, Double.same, Number.toDouble]
  exact beq_iff_eq.mpr (hvalue.trans (beq_iff_eq.mp hm).symm)

/-- Objects are equal exactly if their members stand side by side with equal values. -/
theorem strictEq_object_iff : strictEq (.object ms) (.object ns) = true ↔
    Dict.SideBySide (fun x y => strictEq x y = true) ms ns := by
  rw [strictEq, Json.agree, Json.agreeMembers_iff_sideBySide]
  rfl

/-- Equal documents correspond to each other part by part. -/
theorem corresponds_of_strictEq (h : strictEq a b = true) :
    a.Corresponds (fun x y => strictEq x y = true) b := by
  cases a <;> cases b
  case null.null => exact .null
  case bool.bool x y =>
    obtain rfl := beq_iff_eq.mp h
    exact .bool x
  case number.number m n => exact .number (beq_iff_eq.mp h)
  case string.string s t =>
    obtain rfl := beq_iff_eq.mp h
    exact .string s
  case array.array xs ys => exact .array (Json.agreeAll_iff_forall₂.mp h)
  case object.object ms ns => exact .object (strictEq_object_iff.mp h).get?_rel
  all_goals cases h

/-- Documents that correspond to each other part by part are equal, where objects have their names
in order. -/
theorem strictEq_of_corresponds (ha : a.isOrdered = true) (hb : b.isOrdered = true)
    (h : a.Corresponds (fun x y => strictEq x y = true) b) : strictEq a b = true := by
  cases h with
  | null => rfl
  | bool x => exact strictEq_self (.bool x)
  | number hvalue => exact beq_iff_eq.mpr hvalue
  | string s => exact strictEq_self (.string s)
  | array hentries => exact Json.agreeAll_iff_forall₂.mpr hentries
  | object hmembers =>
    -- members found under the same names stand side by side only if both objects are in order
    have hms := (Json.isOrdered_object.mp ha).1
    have hns := (Json.isOrdered_object.mp hb).1
    refine strictEq_object_iff.mpr ?_
    exact (Dict.covers_of_get?_rel hms hmembers).sideBySide
      (Dict.names_eq_of_get?_rel hms hns hmembers) hms.nodup

/-! ## Sides of a comparison -/

/-- The conditions made of equality ask, of the value found and what is asked for in this order,
whether `eq` holds: of the value itself, of an entry of it, or of an entry of a given list. -/
structure AsksBy (eq : Json → Json → Bool) : Prop where
  equals : ∀ (path : String) (w : Json) (values : Option (List Json)) (document : Json),
    holds ⟨path, .equals, some w, values⟩ document
      = (Path.resolve document path).any fun v => eq v w
  contains : ∀ (path : String) (w : Json) (values : Option (List Json)) (document : Json)
    (items : List Json), Path.resolve document path = some (.array items) →
      holds ⟨path, .contains, some w, values⟩ document = items.any fun v => eq v w
  isIn : ∀ (path : String) (value : Option Json) (ws : List Json) (document : Json),
    holds ⟨path, .isIn, value, some ws⟩ document
      = (Path.resolve document path).any fun v => ws.any fun w => eq v w
  compactIn : ∀ (found : Option Json) (ws : List Json),
    CompactConditions.comparisonHolds found "$in" (.array ws)
      = found.any fun v => ws.any fun w => eq v w

theorem asksBy_strictEq : AsksBy strictEq where
  equals path w values document := by
    cases h : Path.resolve document path <;> simp [holds, matchesEqual, h]
  contains path w values document items h := by
    simp [holds, containsValue?, h]
  isIn path value ws document := by
    simp [holds, isMember?, strictEq_comm]
  compactIn found ws := by
    simp [CompactConditions.comparisonHolds, isMember?, Json.items?, strictEq_comm]

/-! ## Main statement -/

/-- Equality is an equivalence, and what is the same is equal.  Equal documents are of one kind and
have equal parts, and documents that can be held with equal parts are equal; objects are so as soon
as they are of one size and every member of the first is found in the second.  Conditions made of
equality ask the same whichever side comes first. -/
theorem strictEq_equivalence :
    Equivalence (fun a b => strictEq a b = true)
    ∧ (∀ a b, Json.same a b = true → strictEq a b = true)
    ∧ (∀ a b, strictEq a b = true → a.Corresponds (fun x y => strictEq x y = true) b)
    ∧ (∀ a b, a.isOrdered = true → b.isOrdered = true →
        a.Corresponds (fun x y => strictEq x y = true) b → strictEq a b = true)
    ∧ (∀ ms ns : Dict Json, Dict.Ordered ms → Dict.Ordered ns →
        (strictEq (.object ms) (.object ns) = true ↔
          ms.length = ns.length ∧ Dict.Covers (fun x y => strictEq x y = true) ms ns))
    ∧ AsksBy strictEq ∧ AsksBy fun v w => strictEq w v := by
  refine ⟨⟨strictEq_self, ?_, strictEq_trans⟩, fun _ _ => strictEq_of_same,
    fun _ _ => corresponds_of_strictEq, fun _ _ => strictEq_of_corresponds, ?_,
    asksBy_strictEq, ?_⟩
  · intro a b h
    rwa [strictEq_comm]
  · intro ms ns hms hns
    rw [strictEq_object_iff, Dict.sideBySide_iff_covers hms hns]
  · -- by symmetry the second order of the sides is the first one
    have hcomm : (fun v w => strictEq w v) = strictEq := by
      funext v w
      exact strictEq_comm w v
    rw [hcomm]
    exact asksBy_strictEq

end Condition

namespace Invoice

/-- An invoice with its amounts as integers. -/
def inIntegers : Dict Json :=
  [("lines", .array [.number (.int 40), .null]), ("total", .number (.int 40))]

/-- The same invoice with its amounts as floating-point numbers. -/
def inDoubles : Dict Json :=
  [("lines", .array [.number (.double (.ofInt 40)), .null]),
    ("total", .number (.double (.ofInt 40)))]

/-- The two invoices are equal, whichever comes first, but they are not the same. -/
theorem equal_in_other_numbers :
    Condition.strictEq (.object inIntegers) (.object inDoubles) = true
    ∧ Condition.strictEq (.object inDoubles) (.object inIntegers) = true
    ∧ Json.same (.object inIntegers) (.object inDoubles) = false
    ∧ Json.same (.object inDoubles) (.object inDoubles) = true
    ∧ Condition.strictEq (.object inDoubles) (.object inDoubles) = true
    ∧ (Json.object inIntegers).isOrdered = true ∧ (Json.object inDoubles).isOrdered = true
    ∧ Json.Corresponds (fun x y => Condition.strictEq x y = true) (.object inIntegers)
        (.object inDoubles)
    ∧ Dict.Covers (fun x y => Condition.strictEq x y = true) inIntegers inDoubles := by
  have hequal : Condition.strictEq (.object inIntegers) (.object inDoubles) = true := by
    decide +kernel
  have hsame : Json.same (.object inDoubles) (.object inDoubles) = true := by decide +kernel
  have hintegers : (Json.object inIntegers).isOrdered = true := by decide +kernel
  have hdoubles : (Json.object inDoubles).isOrdered = true := by decide +kernel
  obtain ⟨hequivalence, hofSame, hparts, -, hmembers, -⟩ := Condition.strictEq_equivalence
  have hcovers := (hmembers _ _ (Json.isOrdered_object.mp hintegers).1
    (Json.isOrdered_object.mp hdoubles).1).mp hequal
  exact ⟨hequal, hequivalence.symm hequal, by decide +kernel, hsame, hofSame _ _ hsame, hintegers,
    hdoubles, hparts _ _ hequal, hcovers.2⟩

end Invoice
end FormLogic
