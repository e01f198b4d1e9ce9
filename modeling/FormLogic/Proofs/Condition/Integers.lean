/-
  FormLogic.Proofs.Condition.Integers

  Integers in conditions.

  A condition compares two integers through the floating-point numbers
  nearest to them.  Below `2 ^ 53` these are the integers themselves; from
  there on several integers share one number, and conditions take them to be
  equal.  No other mistake is made: the order is never turned around.

    * `Condition.ComeOutAs` — all comparisons of one integer with another, in
      both forms of conditions, come out as those of two given integers.
    * `Condition.FoundAmong` — the same for membership in a list.
    * `Double.KeptApart` — integers that cannot become the same number.
-/

import Mathlib.Tactic.ByContra
import FormLogic.Proofs.Condition.Compact
import FormLogic.Proofs.Double.Rounding

namespace FormLogic

/-! ## Comparisons of integers -/

/-- The integer as a document. -/
def Json.ofInt (n : Int) : Json := .number (.int n)

/-- The document with an integer under a name. -/
def Json.withInteger (name : String) (n : Int) : Json := .object [(name, .ofInt n)]

/-- The check of the value at a path against an integer. -/
def Condition.against (path : String) (o : Operator) (n : Int) : Condition :=
  { field := path, operator := o, value := some (.ofInt n) }

/-- The check of the value at a path for membership in a list of integers. -/
def Condition.among (path : String) (ns : List Int) : Condition :=
  { field := path, operator := .isIn, values := some (ns.map Json.ofInt) }

/-- The one comparison of the value at a path with an operand, in the compact form. -/
def CompactConditions.only (path name : String) (operand : Json) : CompactConditions :=
  [(path, .object [(name, operand)])]

/-- All comparisons of `i`, under a name, with `j` come out as those of `m` with `n`. -/
structure Condition.ComeOutAs (name : String) (i j m n : Int) : Prop where
  equals : (against name .equals j).holds (.withInteger name i) = decide (m = n)
  notEquals : (against name .notEquals j).holds (.withInteger name i) = decide (m ≠ n)
  greaterThan : (against name .greaterThan j).holds (.withInteger name i) = decide (m > n)
  lessThan : (against name .lessThan j).holds (.withInteger name i) = decide (m < n)
  greaterThanOrEqual :
    (against name .greaterThanOrEqual j).holds (.withInteger name i) = decide (m ≥ n)
  lessThanOrEqual : (against name .lessThanOrEqual j).holds (.withInteger name i) = decide (m ≤ n)
  expected : CompactConditions.holds [(name, .ofInt j)] (.withInteger name i) = decide (m = n)
  gt : (CompactConditions.only name "$gt" (.ofInt j)).holds (.withInteger name i) = decide (m > n)
  lt : (CompactConditions.only name "$lt" (.ofInt j)).holds (.withInteger name i) = decide (m < n)
  gte : (CompactConditions.only name "$gte" (.ofInt j)).holds (.withInteger name i) = decide (m ≥ n)
  lte : (CompactConditions.only name "$lte" (.ofInt j)).holds (.withInteger name i) = decide (m ≤ n)

/-- The question whether `i`, under a name, is in a list comes out as said, in both forms. -/
structure Condition.FoundAmong (name : String) (i : Int) (js : List Int) (found : Bool) :
    Prop where
  isIn : (among name js).holds (.withInteger name i) = found
  compact :
    (CompactConditions.only name "$in" (.array (js.map Json.ofInt))).holds (.withInteger name i)
      = found

/-! ## Integers as numbers -/

variable {name : String} {i j m n : Int} {js : List Int}

theorem Path.resolve_withInteger (hname : name ≠ "") (n : Int) :
    Path.resolve (.withInteger name n) name = some (.ofInt n) := by
  simp [Path.resolve, hname, Json.withInteger, Json.members?, Dict.get?]

namespace Condition

theorem strictEq_ofInt (i j : Int) :
    strictEq (.ofInt i) (.ofInt j) = decide ((Double.ofInt i).value = (Double.ofInt j).value) := by
  simp only [strictEq, Json.ofInt, Json.agree, Number.toDouble, Double.same]
  rfl

/-- A compact comparison holds as the check that it stands for. -/
theorem holds_only {comparison : String} (hc : CompactConditions.isComparison comparison = true)
    (path : String) (operand document : Json) :
    (CompactConditions.only path comparison operand).holds document
      = (CompactConditions.comparison path comparison operand).holds document := by
  rw [← CompactConditions.comparisonHolds_eq]
  simp [CompactConditions.only, CompactConditions.holds, CompactConditions.entryHolds, hc]

/-- What is expected holds as the check of equality. -/
theorem holds_expected (path : String) (n : Int) (document : Json) :
    CompactConditions.holds [(path, .ofInt n)] document
      = (against path .equals n).holds document := by
  have hentry := CompactConditions.equality_holds document path (.ofInt n)
  simp only [CompactConditions.holds, List.all_cons, List.all_nil, Bool.and_true]
  exact hentry.symm

/-- The compact forms follow the checks that they stand for. -/
theorem ComeOutAs.of_checks
    (hequals : (against name .equals j).holds (.withInteger name i) = decide (m = n))
    (hless : (against name .lessThan j).holds (.withInteger name i) = decide (m < n))
    (hgreater : (against name .greaterThan j).holds (.withInteger name i) = decide (m > n))
    (hatMost : (against name .lessThanOrEqual j).holds (.withInteger name i) = decide (m ≤ n))
    (hatLeast : (against name .greaterThanOrEqual j).holds (.withInteger name i)
      = decide (m ≥ n)) :
    ComeOutAs name i j m n where
  equals := hequals
  notEquals := by
    have hnot : (against name .notEquals j).holds (.withInteger name i)
        = !(against name .equals j).holds (.withInteger name i) := rfl
    rw [hnot, hequals, decide_not]
  greaterThan := hgreater
  lessThan := hless
  greaterThanOrEqual := hatLeast
  lessThanOrEqual := hatMost
  expected := (holds_expected name j _).trans hequals
  gt := (holds_only (by decide) name _ _).trans hgreater
  lt := (holds_only (by decide) name _ _).trans hless
  gte := (holds_only (by decide) name _ _).trans hatLeast
  lte := (holds_only (by decide) name _ _).trans hatMost

/-- Comparisons come out alike for integers that stand in the same order. -/
theorem ComeOutAs.congr {m' n' : Int} (h : ComeOutAs name i j m n) (heq : m = n ↔ m' = n')
    (hlt : m < n ↔ m' < n') : ComeOutAs name i j m' n' := by
  have hgt : m > n ↔ m' > n' := by omega
  have hle : m ≤ n ↔ m' ≤ n' := by omega
  have hge : m ≥ n ↔ m' ≥ n' := by omega
  exact .of_checks (h.equals.trans (decide_eq_decide.mpr heq))
    (h.lessThan.trans (decide_eq_decide.mpr hlt))
    (h.greaterThan.trans (decide_eq_decide.mpr hgt))
    (h.lessThanOrEqual.trans (decide_eq_decide.mpr hle))
    (h.greaterThanOrEqual.trans (decide_eq_decide.mpr hge))

/-- An ordering of integers is one of the numbers nearest to them. -/
theorem compareNumbers_ofInt (order : Extended → Extended → Bool) (i j : Int) :
    compareNumbers order (some (.ofInt i)) (some (.ofInt j))
      = order (.finite (Double.ofInt i)) (.finite (Double.ofInt j)) := rfl

/-- Integers come out as the values of the numbers nearest to them. -/
theorem comeOutAs_value (hname : name ≠ "") (i j : Int) :
    ComeOutAs name i j (Double.ofInt i).value (Double.ofInt j).value := by
  have hfound := Path.resolve_withInteger hname i
  refine .of_checks ?_ ?_ ?_ ?_ ?_
  · simp only [holds, against, hfound, matchesEqual, strictEq_ofInt]
  all_goals
    simp only [holds, against, hfound, compareNumbers_ofInt]
    rfl

/-- Comparisons are exact where distinct integers have distinct values. -/
theorem comeOutAs_self_iff (hname : name ≠ "") (hi : Number.InRange i) (hj : Number.InRange j) :
    ComeOutAs name i j i j ↔ ((Double.ofInt i).value = (Double.ofInt j).value → i = j) := by
  have hvalue := comeOutAs_value hname i j
  constructor
  · intro hexact hsame
    have hequals := hvalue.equals.symm.trans hexact.equals
    exact (decide_eq_decide.mp hequals).mp hsame
  · intro hinj
    have hle := Double.value_ofInt_mono hi hj
    have hge := Double.value_ofInt_mono hj hi
    refine hvalue.congr ⟨hinj, fun heq => heq ▸ rfl⟩ ?_
    -- a strict order of values is one of the integers, by monotony; the converse needs that the
    -- integers are kept apart
    constructor
    · intro hlt
      by_contra hnot
      exact absurd (hge (by omega)) (by omega)
    · intro hlt
      have hne : (Double.ofInt i).value ≠ (Double.ofInt j).value := fun heq => by
        have := hinj heq
        omega
      exact Int.lt_iff_le_and_ne.mpr ⟨hle (by omega), hne⟩

/-- An integer is a member of a list where it has the value of one in the list. -/
theorem isMember?_ofInt (i : Int) (js : List Int) :
    isMember? (some (.ofInt i)) (some (js.map Json.ofInt))
      = some (decide (∃ j ∈ js, (Double.ofInt i).value = (Double.ofInt j).value)) := by
  have hany : (js.map Json.ofInt).any (fun item => strictEq item (.ofInt i))
      = decide (∃ j ∈ js, (Double.ofInt i).value = (Double.ofInt j).value) := by
    rw [Bool.eq_iff_iff, List.any_map, List.any_eq_true, decide_eq_true_iff]
    refine exists_congr fun j => and_congr_right fun _ => ?_
    rw [Function.comp_apply, strictEq_ofInt, decide_eq_true_iff]
    exact eq_comm
  exact congrArg some hany

/-- An integer is found in a list where it has the value of one in the list. -/
theorem foundAmong_value (hname : name ≠ "") (i : Int) (js : List Int) :
    FoundAmong name i js
      (decide (∃ j ∈ js, (Double.ofInt i).value = (Double.ofInt j).value)) := by
  have hcheck : (among name js).holds (.withInteger name i)
      = decide (∃ j ∈ js, (Double.ofInt i).value = (Double.ofInt j).value) := by
    simp only [holds, among, Path.resolve_withInteger hname, isMember?_ofInt, Option.getD_some]
  exact ⟨hcheck, (holds_only (by decide) name _ _).trans hcheck⟩

/-- A search is exact where a value in the list that equals that of the integer comes from the
integer itself. -/
theorem foundAmong_mem_iff (hname : name ≠ "") (i : Int) (js : List Int) :
    FoundAmong name i js (decide (i ∈ js)) ↔
      ((∃ j ∈ js, (Double.ofInt i).value = (Double.ofInt j).value) → i ∈ js) := by
  have hvalue := foundAmong_value hname i js
  constructor
  · intro hexact
    exact (decide_eq_decide.mp (hvalue.isIn.symm.trans hexact.isIn)).mp
  · intro himp
    have hiff : (∃ j ∈ js, (Double.ofInt i).value = (Double.ofInt j).value) ↔ i ∈ js :=
      ⟨himp, fun hmem => ⟨i, hmem, rfl⟩⟩
    rw [← decide_eq_decide.mpr hiff]
    exact hvalue

end Condition

/-! ## Main statement -/

/-- Two integers that no rounding can make the same number: one of them is below `2 ^ 53`, or both
have at most 53 significant bits. -/
def Double.KeptApart (i j : Int) : Prop :=
  i.natAbs < twoPow 53 ∨ j.natAbs < twoPow 53
    ∨ (Fits (i.natAbs * unitsInOne) ∧ Fits (j.natAbs * unitsInOne))

theorem Double.KeptApart.eq_of_value_eq (h : KeptApart i j) (hi : Number.InRange i)
    (hj : Number.InRange j) (hvalue : (ofInt i).value = (ofInt j).value) : i = j := by
  rcases h with hsmall | hsmall | ⟨hfi, hfj⟩
  · exact eq_of_value_ofInt_eq hj hsmall hvalue
  · exact (eq_of_value_ofInt_eq hi hsmall hvalue.symm).symm
  · exact eq_of_value_ofInt_eq_of_fits hi hj hfi hfj hvalue

/-- Integers are compared by the values of the numbers nearest to them.  This is exact for those,
and only those, that have values of their own, such as integers that are kept apart; and a list is
searched exactly where no other integer in it has the value that is searched for. -/
theorem Condition.integers_compared_iff (hname : name ≠ "") (hi : Number.InRange i) :
    (∀ j, Number.InRange j →
      ComeOutAs name i j (Double.ofInt i).value (Double.ofInt j).value
      ∧ (ComeOutAs name i j i j ↔ ((Double.ofInt i).value = (Double.ofInt j).value → i = j))
      ∧ (Double.KeptApart i j → ComeOutAs name i j i j))
    ∧ ∀ js, (∀ j ∈ js, Number.InRange j) →
      (FoundAmong name i js (decide (i ∈ js)) ↔
        ((∃ j ∈ js, (Double.ofInt i).value = (Double.ofInt j).value) → i ∈ js))
      ∧ ((∀ j ∈ js, Double.KeptApart i j) → FoundAmong name i js (decide (i ∈ js))) := by
  constructor
  · intro j hj
    have hiff := comeOutAs_self_iff hname hi hj
    exact ⟨comeOutAs_value hname i j, hiff, fun hapart => hiff.mpr (hapart.eq_of_value_eq hi hj)⟩
  · intro js hjs
    have hiff := foundAmong_mem_iff hname i js
    refine ⟨hiff, fun hapart => hiff.mpr ?_⟩
    rintro ⟨j, hj, hvalue⟩
    exact (hapart j hj).eq_of_value_eq hi (hjs j hj) hvalue ▸ hj

/-- The first integer that is not held exactly is compared exactly with small ones, and is not
found among them. -/
theorem Ledger.entry_compared_with_small : "entry" ≠ ""
    ∧ Number.InRange 9007199254740993 ∧ Number.InRange (-5)
    ∧ Double.KeptApart 9007199254740993 (-5)
    ∧ Condition.ComeOutAs "entry" 9007199254740993 (-5) 9007199254740993 (-5)
    ∧ (∀ j ∈ [-5, 0], Number.InRange j) ∧ (∀ j ∈ [-5, 0], Double.KeptApart 9007199254740993 j)
    ∧ Condition.FoundAmong "entry" 9007199254740993 [-5, 0] false := by
  have hname : "entry" ≠ "" := by decide
  have hi : Number.InRange 9007199254740993 := Number.inRange_iff.mpr (by decide)
  have hj : ∀ j ∈ [(-5 : Int), 0], Number.InRange j :=
    fun j hj => Number.inRange_iff.mpr (by revert j; decide)
  have hapart : ∀ j ∈ [(-5 : Int), 0], Double.KeptApart 9007199254740993 j :=
    fun j hj => Or.inr (Or.inl (by revert j; decide))
  obtain ⟨hcompared, hsearched⟩ := Condition.integers_compared_iff hname hi
  have hmem : (-5 : Int) ∈ [(-5 : Int), 0] := List.mem_cons_self
  exact ⟨hname, hi, hj _ hmem, hapart _ hmem, (hcompared _ (hj _ hmem)).2.2 (hapart _ hmem), hj,
    hapart, (hsearched _ hj).2 hapart⟩

/-- Two neighbouring integers that a document can hold are taken for equal: they become the same
number. -/
theorem Ledger.neighbours_taken_for_equal :
    Number.InRange 9007199254740993 ∧ Number.InRange 9007199254740992
    ∧ (Condition.against "entry" .equals 9007199254740992).holds
        (.withInteger "entry" 9007199254740993) = true
    ∧ ¬ Condition.ComeOutAs "entry" 9007199254740993 9007199254740992
        9007199254740993 9007199254740992
    ∧ ¬ Condition.FoundAmong "entry" 9007199254740993 [9007199254740992] false := by
  have hequals : (Condition.against "entry" .equals 9007199254740992).holds
      (.withInteger "entry" 9007199254740993) = true := by decide +kernel
  have hmember : (Condition.among "entry" [9007199254740992]).holds
      (.withInteger "entry" 9007199254740993) = true := by decide +kernel
  refine ⟨Number.inRange_iff.mpr (by decide), Number.inRange_iff.mpr (by decide), hequals, ?_, ?_⟩
  · intro hexact
    exact absurd (hequals.symm.trans hexact.equals) (by decide)
  · intro hfound
    exact absurd (hmember.symm.trans hfound.isIn) (by decide)

end FormLogic
