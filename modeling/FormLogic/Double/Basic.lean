/-
  FormLogic.Double.Basic

  Finite binary floating-point numbers with 53 significant bits, held exactly:
  a sign and a natural number of units of `2 ^ -1074`, the smallest positive
  such number.  Comparison is then comparison of integers, and every
  operation is an exact fraction rounded once (`round?`): to the nearest
  representable number, a half to the even one, `none` when that number is
  not finite.

    * `divNearest` rounds a quotient of natural numbers.
    * `Fits` says which counts of units are representable.
    * `Double` carries the proof that its count is.
    * `Extended` adds the two infinities, for text that may name them.
-/

namespace FormLogic

/-! ## Rounding a quotient -/

/-- `n / d` to the nearest natural number, a half to the even one. -/
def divNearest (n d : Nat) : Nat :=
  let q := n / d
  let r := n % d
  if 2 * r < d then q
  else if d < 2 * r then q + 1
  else if q % 2 = 0 then q else q + 1

/-- Rounding a quotient goes up by at most one. -/
theorem divNearest_le_succ (n d : Nat) : divNearest n d ≤ n / d + 1 := by
  simp only [divNearest]
  split
  · omega
  · split
    · omega
    · split <;> omega

/-- A quotient that comes out even is not changed. -/
theorem divNearest_mul (q d : Nat) (h : 0 < d) : divNearest (q * d) d = q := by
  simp [divNearest, Nat.mul_div_cancel _ h, Nat.mul_mod_left, h]

/-! ## Powers of two -/

/-- A power of two. -/
def twoPow (n : Nat) : Nat := Nat.pow 2 n

/-- Powers of two are positive. -/
theorem twoPow_pos (n : Nat) : 0 < twoPow n := Nat.two_pow_pos n

/-- A power of two splits at a sum of exponents. -/
theorem twoPow_add (m n : Nat) : twoPow (m + n) = twoPow m * twoPow n := Nat.pow_add 2 m n

/-! ## Representable counts of units -/

/-- The place of the number one above the smallest unit, in bits. -/
def unitBits : Nat := 1074

/-- The place of the first number that is too large, in bits above the smallest unit. -/
def overflowBits : Nat := 2098

/-- The units in the number one. -/
def unitsInOne : Nat := twoPow unitBits

/-- The first count of units that is too large. -/
def overflowUnits : Nat := twoPow overflowBits

theorem unitsInOne_pos : 0 < unitsInOne := twoPow_pos unitBits

theorem overflowUnits_pos : 0 < overflowUnits := twoPow_pos overflowBits

/-- A count of units is representable when it has at most 53 significant bits and does not overflow.
-/
def Fits (u : Nat) : Prop :=
  (∃ m s, m ≤ twoPow 53 ∧ u = m * twoPow s) ∧ u < overflowUnits

theorem fits_zero : Fits 0 :=
  ⟨⟨0, 0, Nat.zero_le _, by simp⟩, overflowUnits_pos⟩

/-- The count of trailing bits that rounding drops from a number of `u` units. -/
def droppedBits (u : Nat) : Nat := u.log2 + 1 - 53

/-- The quotient `num / den`, in units, rounded to 53 significant bits. -/
def roundUnits (num den : Nat) : Nat :=
  let s := droppedBits (num / den)
  divNearest num (den * twoPow s) * twoPow s

/-- Without the dropped bits a quotient has at most 53 bits. -/
theorem divNearest_dropped_le (num den : Nat) :
    divNearest num (den * twoPow (droppedBits (num / den))) ≤ twoPow 53 := by
  have hlt : num / den < 2 ^ (droppedBits (num / den) + 53) := by
    refine Nat.lt_of_lt_of_le (Nat.lt_log2_self (n := num / den)) ?_
    exact Nat.pow_le_pow_right (by omega) (by unfold droppedBits; omega)
  have hq : num / (den * 2 ^ droppedBits (num / den)) < 2 ^ 53 := by
    rw [← Nat.div_div_eq_div_mul]
    rw [Nat.div_lt_iff_lt_mul (Nat.two_pow_pos _), ← Nat.pow_add, Nat.add_comm]
    exact hlt
  exact Nat.le_trans (divNearest_le_succ num (den * 2 ^ droppedBits (num / den))) hq

/-- Rounding leaves at most 53 significant bits. -/
theorem roundUnits_bits (num den : Nat) :
    ∃ m s, m ≤ twoPow 53 ∧ roundUnits num den = m * twoPow s :=
  ⟨_, droppedBits (num / den), divNearest_dropped_le num den, rfl⟩

/-! ## Finite numbers -/

/-- A finite number: its sign and its magnitude in units of `2 ^ -1074`.  Zero has both signs. -/
structure Double where
  negative : Bool
  units : Nat
  fits : Fits units

namespace Double

instance : DecidableEq Double := fun a b =>
  decidable_of_iff (a.negative = b.negative ∧ a.units = b.units) (by
    cases a; cases b; simp)

/-- The number `± num / den`, in units, rounded; `none` when that overflows. -/
def round? (negative : Bool) (num den : Nat) : Option Double :=
  if h : roundUnits num den < overflowUnits then
    some ⟨negative, roundUnits num den, roundUnits_bits num den, h⟩
  else none

/-- Zero with a sign. -/
def zero (negative : Bool) : Double := ⟨negative, 0, fits_zero⟩

/-- The largest finite number, with a sign. -/
def largest (negative : Bool) : Double :=
  ⟨negative, (twoPow 53 - 1) * twoPow (overflowBits - 53),
    ⟨_, _, Nat.sub_le _ _, rfl⟩, by
      have h : overflowUnits = twoPow 53 * twoPow (overflowBits - 53) :=
        twoPow_add 53 (overflowBits - 53)
      rw [h]
      exact Nat.mul_lt_mul_of_pos_right (by decide) (twoPow_pos _)⟩

instance : Inhabited Double := ⟨zero false⟩

/-- The number nearest to an integer; an integer beyond all finite numbers goes to the largest. -/
def ofInt (n : Int) : Double :=
  (round? (decide (n < 0)) (n.natAbs * unitsInOne) 1).getD (largest (decide (n < 0)))

/-- The exact value as an integer count of units.  Both zeros give `0`. -/
def value (d : Double) : Int := if d.negative then -(d.units : Int) else d.units

/-- The number with the other sign. -/
def neg (d : Double) : Double := { d with negative := !d.negative }

/-- Equality as numbers: both zeros are the same number. -/
def same (a b : Double) : Bool := a.value == b.value

/-- The order of numbers. -/
def lt (a b : Double) : Bool := decide (a.value < b.value)

/-- The order of numbers, equality included. -/
def le (a b : Double) : Bool := decide (a.value ≤ b.value)

/-- The product, rounded. -/
def mul? (a b : Double) : Option Double :=
  round? (a.negative != b.negative) (a.units * b.units) unitsInOne

/-- The quotient by a nonzero number, rounded. -/
def div? (a b : Double) : Option Double :=
  round? (a.negative != b.negative) (a.units * unitsInOne) b.units

/-- The integer that the number is, if it is one. -/
def toInt? (d : Double) : Option Int :=
  if d.units % unitsInOne = 0 then
    let n : Int := (d.units / unitsInOne : Nat)
    some (if d.negative then -n else n)
  else none

/-- The number `± digits · 10 ^ exponent`, rounded; `none` when that overflows.

An exponent so far out that the answer is zero or overflows for every count of
digits at hand is not multiplied out. -/
def ofDecimal? (negative : Bool) (digits : Nat) (exponent : Int) : Option Double :=
  if digits = 0 then some (zero negative)
  else if 400 < exponent then none
  else if exponent < -400 - (digits.log2 : Int) then some (zero negative)
  else if 0 ≤ exponent then round? negative (digits * Nat.pow 10 exponent.toNat * unitsInOne) 1
  else round? negative (digits * unitsInOne) (Nat.pow 10 (-exponent).toNat)

end Double

/-! ## Numbers with infinities -/

/-- A finite number or an infinity. -/
inductive Extended where
  | finite (d : Double)
  | infinite (negative : Bool)
deriving DecidableEq

namespace Extended

/-- The order, with the infinities at the ends. -/
def lt : Extended → Extended → Bool
  | .finite a, .finite b => a.lt b
  | .finite _, .infinite negative => !negative
  | .infinite negative, .finite _ => negative
  | .infinite a, .infinite b => a && !b

/-- The order, equality included. -/
def le : Extended → Extended → Bool
  | .finite a, .finite b => a.le b
  | .finite _, .infinite negative => !negative
  | .infinite negative, .finite _ => negative
  | .infinite a, .infinite b => a || !b

end Extended

end FormLogic
