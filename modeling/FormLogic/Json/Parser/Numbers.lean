/-
  FormLogic.Json.Parser.Numbers

  Numbers.  One without point and exponent that fits 64 bits is an integer.
  Any other is a significand of at most 64 bits, scaled by a power of ten
  with one rounding for the significand and one for each scaling; digits that
  no longer fit the significand only shift the exponent.
-/

import FormLogic.Json.Parser.Fault

namespace FormLogic
namespace Json.Parser

/-- The largest significand that is kept exactly. -/
def maxSignificand : Nat := Nat.pow 2 64 - 1

/-- The largest exponent that is kept exactly. -/
def maxExponent : Nat := Nat.pow 2 31 - 1

/-! ## Scaling -/

/-- The power of ten `10 ^ n` as a number, for `n` at most 308. -/
def powerOfTen (n : Nat) : Double :=
  (Double.ofDecimal? false 1 n).getD (Double.largest false)

/-- Divides by a power of ten, in strides of `10 ^ 308`. -/
def divideByPower (d : Double) (k : Nat) : Double :=
  if k ≤ 308 then (d.div? (powerOfTen k)).getD d
  else if d.units = 0 then d
  else divideByPower ((d.div? (powerOfTen 308)).getD d) (k - 308)
termination_by k

/-- A significand scaled by a power of ten; `none` when that overflows. -/
def scaled? (negative : Bool) (significand : Nat) (exponent : Int) : Option Double :=
  let d := Double.ofInt significand
  let signed (d : Double) : Double := { d with negative := negative }
  if exponent < 0 then some (signed (divideByPower d (-exponent).toNat))
  else if exponent ≤ 308 then (d.mul? (powerOfTen exponent.toNat)).map signed
  else if d.units = 0 then some (signed d)
  else none

/-- The outcome of scaling, with the text behind the number. -/
def scaledNumber (negative : Bool) (significand : Nat) (exponent : Int) (rest : List Char) :
    Except Fault (Json × List Char) :=
  match scaled? negative significand exponent with
  | some d => .ok (.number (.double d), rest)
  | none => .error (.here .numberOutOfRange rest)

/-! ## Significand and exponent -/

/-- Adds digits to a significand while it fits; the second part counts those added. -/
def extendSignificand (significand added : Nat) : List Char → Nat × Nat
  | [] => (significand, added)
  | c :: cs =>
    let next := significand * 10 + (c.toNat - '0'.toNat)
    if maxSignificand < next then (significand, added)
    else extendSignificand next (added + 1) cs

/-- Clamps an exponent to 32 bits. -/
def clampExponent (e : Int) : Int := max (-(maxExponent : Int) - 1) (min maxExponent e)

/-- Digits of an exponent while it fits; otherwise the digits behind the point where it no longer
does. -/
def exponentDigits (acc : Nat) : List Char → Except (List Char) Nat
  | [] => .ok acc
  | c :: cs =>
    let next := acc * 10 + (c.toNat - '0'.toNat)
    if maxExponent < next then .error cs else exponentDigits next cs

/-- The number whose exponent digits follow, behind the exponent's mark and sign. -/
def exponentPart (negative : Bool) (significand : Nat) (exponent : Int) (minus : Bool)
    (s : List Char) : Except Fault (Json × List Char) :=
  match s with
  | [] => .error (.here .eofInValue [])
  | c :: r =>
    if c.isDigit then
      let rest := r.dropWhile Char.isDigit
      match exponentDigits 0 (s.takeWhile Char.isDigit) with
      | .ok n =>
        scaledNumber negative significand
          (clampExponent (if minus then exponent - n else exponent + n)) rest
      | .error unread =>
        if significand ≠ 0 ∧ !minus then .error (.here .numberOutOfRange (unread ++ rest))
        else .ok (.number (.double (Double.zero negative)), rest)
    else .error (.past .invalidNumber s)

/-- The number with the given significand and exponent so far, from the exponent's mark on if there
is one. -/
def finishDouble (negative : Bool) (significand : Nat) (exponent : Int) (s : List Char) :
    Except Fault (Json × List Char) :=
  match s with
  | [] => scaledNumber negative significand exponent []
  | c :: r =>
    if c = 'e' ∨ c = 'E' then
      exponentPart negative significand exponent (Extended.splitSign r).1 (Extended.splitSign r).2
    else scaledNumber negative significand exponent (c :: r)

/-! ## Numbers -/

/-- The fraction of a number, behind its point. -/
def fraction (negative : Bool) (significand : Nat) (exponent : Int) (s : List Char) :
    Except Fault (Json × List Char) :=
  let digits := s.takeWhile Char.isDigit
  let rest := s.dropWhile Char.isDigit
  if digits = [] then
    match s with
    | [] => .error (.here .eofInValue [])
    | _ => .error (.past .invalidNumber s)
  else
    let (significand, added) := extendSignificand significand 0 digits
    finishDouble negative significand (exponent - added) rest

/-- The number whose whole digits are given, from the character behind them on. -/
def afterWhole (negative : Bool) (digits : List Char) (s : List Char) :
    Except Fault (Json × List Char) :=
  let (significand, added) := extendSignificand 0 0 digits
  let dropped := digits.length - added
  match s with
  | '.' :: r => fraction negative significand dropped r
  | 'e' :: _ => finishDouble negative significand dropped s
  | 'E' :: _ => finishDouble negative significand dropped s
  | _ =>
    if 0 < dropped then finishDouble negative significand dropped s
    else if !negative then .ok (.number (.int significand), s)
    else if 0 < significand ∧ significand ≤ Nat.pow 2 63 then .ok (.number (.int (-significand)), s)
    else .ok (.number (.double (Double.ofInt significand).neg), s)

/-- A number, behind its minus sign if it has one. -/
def number (negative : Bool) (s : List Char) : Except Fault (Json × List Char) :=
  match s with
  | [] => .error (.here .eofInValue [])
  | c :: r =>
    if c = '0' then
      match r with
      | d :: _ =>
        if d.isDigit then .error (.past .invalidNumber r) else afterWhole negative ['0'] r
      | [] => afterWhole negative ['0'] r
    else if c.isDigit then
      afterWhole negative (s.takeWhile Char.isDigit) (s.dropWhile Char.isDigit)
    else .error (.past .invalidNumber (c :: r))

/-! ## Progress -/

theorem dropWhile_length {α : Type} (p : α → Bool) (s : List α) :
    (s.dropWhile p).length ≤ s.length :=
  (List.dropWhile_suffix p).length_le

theorem splitSign_length (s : List Char) : (Extended.splitSign s).2.length ≤ s.length := by
  unfold Extended.splitSign
  split <;> simp

theorem scaledNumber_rest {negative : Bool} {m : Nat} {e : Int} {s : List Char} {v : Json}
    {r : List Char} (h : scaledNumber negative m e s = .ok (v, r)) : r = s := by
  unfold scaledNumber at h
  split at h
  · simp at h; exact h.2.symm
  · simp at h

theorem exponentPart_length {negative minus : Bool} {m : Nat} {e : Int} {s : List Char}
    {v : Json} {r : List Char} (h : exponentPart negative m e minus s = .ok (v, r)) :
    r.length ≤ s.length := by
  unfold exponentPart at h
  split at h
  · simp at h
  · next c t =>
    have hd := dropWhile_length Char.isDigit t
    split at h
    · simp only at h
      split at h
      · rw [scaledNumber_rest h]; simp; omega
      · split at h
        · simp at h
        · simp at h; rw [← h.2]; simp; omega
    · simp at h

theorem finishDouble_length {negative : Bool} {m : Nat} {e : Int} {s : List Char} {v : Json}
    {r : List Char} (h : finishDouble negative m e s = .ok (v, r)) : r.length ≤ s.length := by
  unfold finishDouble at h
  split at h
  · exact Nat.le_of_eq (congrArg List.length (scaledNumber_rest h))
  · next c t =>
    split at h
    · have h1 := exponentPart_length h
      have h2 := splitSign_length t
      simp; omega
    · exact Nat.le_of_eq (congrArg List.length (scaledNumber_rest h))

theorem fraction_length {negative : Bool} {m : Nat} {e : Int} {s : List Char} {v : Json}
    {r : List Char} (h : fraction negative m e s = .ok (v, r)) : r.length ≤ s.length := by
  unfold fraction at h
  simp only at h
  split at h
  · split at h <;> simp at h
  · exact Nat.le_trans (finishDouble_length h) (dropWhile_length _ _)

theorem afterWhole_length {negative : Bool} {digits s : List Char} {v : Json} {r : List Char}
    (h : afterWhole negative digits s = .ok (v, r)) : r.length ≤ s.length := by
  unfold afterWhole at h
  simp only at h
  split at h
  · exact Nat.le_succ_of_le (fraction_length h)
  · exact finishDouble_length h
  · exact finishDouble_length h
  · split at h
    · exact finishDouble_length h
    · split at h
      · simp at h; simp [h.2]
      · split at h
        · simp at h; simp [h.2]
        · simp at h; simp [h.2]

theorem number_length {negative : Bool} {s : List Char} {v : Json} {r : List Char}
    (h : number negative s = .ok (v, r)) : r.length < s.length := by
  unfold number at h
  split at h
  · simp at h
  · next c t =>
    split at h
    · split at h
      · split at h
        · simp at h
        · have := afterWhole_length h
          simp at this ⊢; omega
      · have := afterWhole_length h
        simp at this ⊢; omega
    · split at h
      · next hc =>
        have := afterWhole_length h
        have hd := dropWhile_length Char.isDigit t
        simp [hc] at this
        simp; omega
      · simp at h

end Json.Parser
end FormLogic
