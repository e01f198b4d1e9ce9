/-
  FormLogic.Double.Shortest

  The shortest decimal that reads back as a given number.

  The reals that round to a number form an interval: from halfway to the
  neighbour below to halfway to the neighbour above, ends included exactly
  when the number's last significant bit is even.  For 1, 2, … 17 digits the
  two neighbours of the number on that decimal grid are tested against the
  interval by exact integer arithmetic; the first grid with a hit wins, and
  of two hits the nearer one.
-/

import FormLogic.Double.Basic

namespace FormLogic
namespace Double

/-- A positive decimal `digits · 10 ^ exponent`. -/
structure Decimal where
  digits : Nat
  exponent : Int
deriving DecidableEq, Repr

/-- The interval of reals that round to a positive number, in quarters of a unit. -/
structure Interval where
  low : Nat
  high : Nat
  closed : Bool

/-- The rounding interval of a positive count of units.  Below a power of two the gap is half as
wide. -/
def interval (units : Nat) : Interval :=
  let s := droppedBits units
  let m := units / twoPow s
  let below := if m = twoPow 52 ∧ 0 < s then twoPow s else 2 * twoPow s
  { low := 4 * units - below, high := 4 * units + 2 * twoPow s, closed := m % 2 = 0 }

/-- Compares the decimal `d · 10 ^ e` with a count of quarter units. -/
def compareQuarters (d : Nat) (e : Int) (quarters : Nat) : Ordering :=
  if 0 ≤ e then compare (d * Nat.pow 10 e.toNat * (4 * unitsInOne)) quarters
  else compare (d * (4 * unitsInOne)) (quarters * Nat.pow 10 (-e).toNat)

/-- Whether the decimal `d · 10 ^ e` lies in an interval. -/
def Interval.contains (i : Interval) (d : Nat) (e : Int) : Bool :=
  match compareQuarters d e i.low, compareQuarters d e i.high with
  | .gt, .lt => true
  | .eq, _ => i.closed
  | _, .eq => i.closed
  | _, _ => false

/-- The largest `q` with `q · 10 ^ e` at most the number of `units`. -/
def gridFloor (units : Nat) (e : Int) : Nat :=
  if 0 ≤ e then units / (Nat.pow 10 e.toNat * unitsInOne)
  else units * Nat.pow 10 (-e).toNat / unitsInOne

/-- Of two grid neighbours `q` and `q + 1` that both read back, the nearer one; a tie goes to the
even one. -/
def nearer (units q : Nat) (e : Int) : Nat :=
  match compareQuarters (2 * q + 1) e (8 * units) with
  | .gt => q
  | .lt => q + 1
  | .eq => if q % 2 = 0 then q else q + 1

/-- The decimal on the grid of step `10 ^ e` that reads back as the number, if there is one. -/
def onGrid? (units : Nat) (e : Int) : Option Nat :=
  let i := interval units
  let q := gridFloor units e
  match i.contains q e, i.contains (q + 1) e with
  | true, true => some (nearer units q e)
  | true, false => some q
  | false, true => some (q + 1)
  | false, false => none

/-- The least `k` with the number below `10 ^ k`, found upward from an estimate that is never too
large. -/
def scaleFrom (units : Nat) : Nat → Int → Int
  | 0, k => k
  | steps + 1, k =>
    if gridFloor units k = 0 then k else scaleFrom units steps (k + 1)

/-- The least `k` with the number below `10 ^ k`.

A number of `b` significant units lies at or above `2 ^ (b - 1074)`, and
`30103 / 100000` is just above the decimal logarithm of two, so the estimate
is within a few steps of the answer. -/
def scale (units : Nat) : Int :=
  let e : Int := (units.log2 : Int) - unitBits
  let estimate := if 0 ≤ e then e * 30102 / 100000 else e * 30104 / 100000
  scaleFrom units 8 (estimate - 1)

/-- Tries the grids with `n`, `n + 1`, … digits, the last of them at the end of the list of sizes.
-/
def searchDigits (units : Nat) (k : Int) : List Nat → Decimal
  | [] => ⟨units * Nat.pow 5 unitBits, -unitBits⟩
  | n :: rest =>
    match onGrid? units (k - n) with
    | some q => ⟨q, k - n⟩
    | none => searchDigits units k rest

/-- Moves trailing zeros of the digits into the exponent, `steps` at most. -/
def stripZeros : Nat → Decimal → Decimal
  | 0, d => d
  | steps + 1, d =>
    if d.digits ≠ 0 ∧ d.digits % 10 = 0 then stripZeros steps ⟨d.digits / 10, d.exponent + 1⟩
    else d

/-- The shortest decimal that reads back as the positive number of `units`. -/
def shortest (units : Nat) : Decimal :=
  stripZeros 20 (searchDigits units (scale units) (List.range' 1 17))

end Double
end FormLogic
