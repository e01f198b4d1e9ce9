/-
  FormLogic.Proofs.Double.Rounding

  Integers as floating-point numbers.

  Rounding drops the same count of bits from numbers of one length, and a
  longer number rounds to no less than the first of its length.  So it keeps
  the order (`roundUnits_mono`); and it leaves alone what can be represented
  (`roundUnits_of_fits`).  Two integers can therefore become the same number,
  but their order is never turned around.

    * `Double.value_ofInt_mono` — the order of integers is kept.
    * `Double.value_ofInt_of_fits` — an integer of 53 significant bits is held
      exactly.
    * `Double.eq_of_value_ofInt_eq` — next to an integer below `2 ^ 53` no other
      integer becomes the same number.
-/

import Mathlib.Tactic.SplitIfs
import FormLogic.Json.Basic

namespace FormLogic

/-! ## Rounding a quotient -/

theorem div_le_divNearest (n d : Nat) : n / d ≤ divNearest n d := by
  simp only [divNearest]
  split
  · omega
  · split
    · omega
    · split <;> omega

/-- Rounding keeps the order of what is divided. -/
theorem divNearest_mono {m n : Nat} (d : Nat) (h : m ≤ n) : divNearest m d ≤ divNearest n d := by
  have hq : m / d ≤ n / d := Nat.div_le_div_right h
  have hm : d * (m / d) + m % d = m := Nat.div_add_mod m d
  have hn : d * (n / d) + n % d = n := Nat.div_add_mod n d
  rcases Nat.lt_or_eq_of_le hq with hlt | heq
  · -- the quotient grows by no less than rounding can add to the smaller one
    calc divNearest m d ≤ m / d + 1 := divNearest_le_succ m d
      _ ≤ n / d := hlt
      _ ≤ divNearest n d := div_le_divNearest n d
  · -- over one quotient the remainders decide
    have hr : m % d ≤ n % d := by
      rw [heq] at hm
      omega
    simp only [divNearest, heq]
    split_ifs <;> omega

/-! ## Rounding to 53 bits -/

theorem twoPow_le_twoPow {m n : Nat} (h : m ≤ n) : twoPow m ≤ twoPow n :=
  Nat.pow_le_pow_right (by decide) h

theorem twoPow_lt_twoPow {m n : Nat} (h : m < n) : twoPow m < twoPow n :=
  Nat.pow_lt_pow_right (by decide) h

theorem droppedBits_mono {u v : Nat} (h : u ≤ v) : droppedBits u ≤ droppedBits v := by
  have hlog : u.log2 ≤ v.log2 := by
    by_cases hu : u = 0
    · simp [hu]
    · exact (Nat.le_log2 (by omega)).mpr (Nat.le_trans (Nat.log2_self_le hu) h)
  unfold droppedBits
  omega

/-- A rounded number is at most the first that drops more bits. -/
theorem roundUnits_le (num den : Nat) :
    roundUnits num den ≤ twoPow (53 + droppedBits (num / den)) := by
  rw [twoPow_add]
  exact Nat.mul_le_mul_right _ (divNearest_dropped_le num den)

/-- A number that drops bits is rounded to no less than the first that drops as many. -/
theorem le_roundUnits {num den : Nat} (h : 0 < droppedBits (num / den)) :
    twoPow (52 + droppedBits (num / den)) ≤ roundUnits num den := by
  have hlog : (num / den).log2 = 52 + droppedBits (num / den) := by
    unfold droppedBits at h ⊢
    omega
  have hne : num / den ≠ 0 := by
    intro h0
    rw [h0] at h
    exact absurd h (by decide)
  have hlow : 2 ^ (52 + droppedBits (num / den)) ≤ num / den := hlog ▸ Nat.log2_self_le hne
  have hq : twoPow 52 ≤ num / (den * twoPow (droppedBits (num / den))) := by
    rw [← Nat.div_div_eq_div_mul, Nat.le_div_iff_mul_le (twoPow_pos _), ← twoPow_add]
    exact hlow
  rw [twoPow_add]
  exact Nat.mul_le_mul_right _ (Nat.le_trans hq (div_le_divNearest _ _))

/-- Rounding keeps the order. -/
theorem roundUnits_mono {m n : Nat} (den : Nat) (h : m ≤ n) :
    roundUnits m den ≤ roundUnits n den := by
  have hs : droppedBits (m / den) ≤ droppedBits (n / den) :=
    droppedBits_mono (Nat.div_le_div_right h)
  rcases Nat.lt_or_eq_of_le hs with hlt | heq
  · calc roundUnits m den ≤ twoPow (53 + droppedBits (m / den)) := roundUnits_le m den
      _ ≤ twoPow (52 + droppedBits (n / den)) := twoPow_le_twoPow (by omega)
      _ ≤ roundUnits n den := le_roundUnits (by omega)
  · simp only [roundUnits, heq]
    exact Nat.mul_le_mul_right _ (divNearest_mono _ h)

/-- Of a number with at most 53 significant bits only zeros are dropped. -/
theorem twoPow_droppedBits_dvd {u m s : Nat} (hm : m ≤ twoPow 53) (hu : u = m * twoPow s) :
    twoPow (droppedBits u) ∣ u := by
  by_cases hd : droppedBits u ≤ s
  · have hdvd : twoPow (droppedBits u) ∣ twoPow s := Nat.pow_dvd_pow 2 hd
    exact hu ▸ Nat.dvd_mul_left_of_dvd hdvd m
  · -- more bits are dropped than there are zeros only of the first number of its length
    have hlog : 53 + s ≤ u.log2 := by
      unfold droppedBits at hd
      omega
    have hne : u ≠ 0 := by
      rintro rfl
      exact hd (Nat.zero_le s)
    have hlow : twoPow 53 * twoPow s ≤ u := by
      rw [← twoPow_add]
      exact (Nat.le_log2 hne).mp hlog
    have hm' : u = twoPow (53 + s) := by
      rw [twoPow_add]
      exact Nat.le_antisymm (hu ▸ Nat.mul_le_mul_right _ hm) hlow
    rw [hm']
    refine Nat.pow_dvd_pow 2 ?_
    have hlog2 : (twoPow (53 + s)).log2 = 53 + s := Nat.log2_two_pow
    unfold droppedBits
    omega

/-- Rounding does not change what can be represented. -/
theorem roundUnits_of_fits {u : Nat} (h : Fits u) : roundUnits u 1 = u := by
  obtain ⟨⟨m, s, hm, hu⟩, -⟩ := h
  obtain ⟨q, hq⟩ := twoPow_droppedBits_dvd hm hu
  have hround : divNearest u (twoPow (droppedBits u)) = q := by
    have heven := divNearest_mul q (twoPow (droppedBits u)) (twoPow_pos _)
    rwa [Nat.mul_comm, ← hq] at heven
  simp only [roundUnits, Nat.div_one, Nat.one_mul, hround]
  rw [Nat.mul_comm, ← hq]

/-! ## Integers -/

theorem twoPow_mul_unitsInOne (n : Nat) : twoPow n * unitsInOne = twoPow (n + unitBits) := by
  rw [unitsInOne, twoPow_add]

/-- A whole number of at most 53 bits can be represented. -/
theorem fits_of_le {n : Nat} (h : n ≤ twoPow 53) : Fits (n * unitsInOne) := by
  refine ⟨⟨n, unitBits, h, rfl⟩, ?_⟩
  calc n * unitsInOne ≤ twoPow 53 * unitsInOne := Nat.mul_le_mul_right _ h
    _ = twoPow (53 + unitBits) := twoPow_mul_unitsInOne 53
    _ < twoPow overflowBits := twoPow_lt_twoPow (by decide)

/-- No whole number of 64 bits overflows. -/
theorem roundUnits_lt_overflowUnits {n : Nat} (h : n ≤ twoPow 64) :
    roundUnits (n * unitsInOne) 1 < overflowUnits := by
  have hover : twoPow (64 + unitBits) < twoPow overflowBits := twoPow_lt_twoPow (by decide)
  have hfits : Fits (twoPow (64 + unitBits)) :=
    ⟨⟨1, 64 + unitBits, twoPow_pos 53, (Nat.one_mul _).symm⟩, hover⟩
  calc roundUnits (n * unitsInOne) 1 ≤ roundUnits (twoPow (64 + unitBits)) 1 :=
        roundUnits_mono 1 (twoPow_mul_unitsInOne 64 ▸ Nat.mul_le_mul_right _ h)
    _ = twoPow (64 + unitBits) := roundUnits_of_fits hfits
    _ < twoPow overflowBits := hover

/-- The integers that a document can hold, in figures. -/
theorem Number.inRange_iff {n : Int} :
    Number.InRange n ↔ -9223372036854775808 ≤ n ∧ n < 18446744073709551616 := Iff.rfl

/-- The magnitude of an integer in a document has at most 64 bits. -/
theorem Number.InRange.natAbs_le {n : Int} (h : Number.InRange n) : n.natAbs ≤ twoPow 64 := by
  have h64 : twoPow 64 = 18446744073709551616 := rfl
  obtain ⟨hlow, hhigh⟩ := Number.inRange_iff.mp h
  omega

namespace Double

variable {i j n : Int}

/-- The value of an integer is that of its magnitude, rounded, under its sign. -/
theorem value_ofInt (h : Number.InRange n) :
    (ofInt n).value = if n < 0 then -(roundUnits (n.natAbs * unitsInOne) 1 : Int)
      else roundUnits (n.natAbs * unitsInOne) 1 := by
  have hlt := roundUnits_lt_overflowUnits h.natAbs_le
  simp only [ofInt, round?, dif_pos hlt, Option.getD_some, value, decide_eq_true_eq]

/-- Rounding does not turn the order of integers around. -/
theorem value_ofInt_mono (hi : Number.InRange i) (hj : Number.InRange j) (h : i ≤ j) :
    (ofInt i).value ≤ (ofInt j).value := by
  have hmono : ∀ {m n : Nat}, m ≤ n →
      roundUnits (m * unitsInOne) 1 ≤ roundUnits (n * unitsInOne) 1 :=
    fun hmn => roundUnits_mono 1 (Nat.mul_le_mul_right _ hmn)
  rw [value_ofInt hi, value_ofInt hj]
  by_cases hneg : j < 0
  · -- below zero the greater integer is the one of smaller magnitude
    have hle := hmono (show j.natAbs ≤ i.natAbs by omega)
    rw [if_pos (by omega), if_pos hneg]
    omega
  · rw [if_neg hneg]
    split
    · omega
    · have hle := hmono (show i.natAbs ≤ j.natAbs by omega)
      omega

/-- An integer whose magnitude can be represented is held exactly. -/
theorem value_ofInt_of_fits (hn : Number.InRange n) (h : Fits (n.natAbs * unitsInOne)) :
    (ofInt n).value = n * unitsInOne := by
  rw [value_ofInt hn, roundUnits_of_fits h]
  split
  · have habs : (n.natAbs : Int) = -n := by omega
    rw [Int.natCast_mul, habs, Int.neg_mul, Int.neg_neg]
  · have habs : (n.natAbs : Int) = n := by omega
    rw [Int.natCast_mul, habs]

/-- Two integers that are held exactly stay distinct. -/
theorem eq_of_value_ofInt_eq_of_fits (hi : Number.InRange i) (hj : Number.InRange j)
    (hfi : Fits (i.natAbs * unitsInOne)) (hfj : Fits (j.natAbs * unitsInOne))
    (h : (ofInt i).value = (ofInt j).value) : i = j := by
  rw [value_ofInt_of_fits hi hfi, value_ofInt_of_fits hj hfj] at h
  have hone : (unitsInOne : Int) ≠ 0 := Int.natCast_ne_zero.mpr (Nat.ne_of_gt unitsInOne_pos)
  exact Int.eq_of_mul_eq_mul_right hone h

/-- Next to an integer below `2 ^ 53` no other becomes the same number: its neighbours are held
exactly, and all other integers are beyond them. -/
theorem eq_of_value_ofInt_eq (hj : Number.InRange j)
    (hsmall : i.natAbs < twoPow 53) (h : (ofInt i).value = (ofInt j).value) : i = j := by
  have h53 : twoPow 53 = 9007199254740992 := rfl
  have hexact : ∀ {k : Int}, k.natAbs ≤ twoPow 53 → Number.InRange k ∧
      (ofInt k).value = k * unitsInOne := by
    intro k hk
    have hrange : Number.InRange k := Number.inRange_iff.mpr (by omega)
    exact ⟨hrange, value_ofInt_of_fits hrange (fits_of_le hk)⟩
  have hone : (0 : Int) < unitsInOne := Int.natCast_pos.mpr unitsInOne_pos
  rcases Int.lt_trichotomy i j with hlt | heq | hgt
  · obtain ⟨hnext, hvalue⟩ := hexact (k := i + 1) (by omega)
    have hle := value_ofInt_mono hnext hj (by omega)
    rw [← h, hvalue, (hexact (Nat.le_of_lt hsmall)).2, Int.add_mul] at hle
    omega
  · exact heq
  · obtain ⟨hprev, hvalue⟩ := hexact (k := i - 1) (by omega)
    have hle := value_ofInt_mono hj hprev (by omega)
    rw [← h, hvalue, (hexact (Nat.le_of_lt hsmall)).2, Int.sub_mul] at hle
    omega

end Double
end FormLogic
