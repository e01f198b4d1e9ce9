/-
  FormLogic.Double.Text

  Numbers as text.  Writing uses the fewest digits that read back, laid out
  positionally with a fraction part between `10 ^ -5` and `10 ^ 16` and with a
  signed exponent elsewhere.  Reading accepts a sign, digits with an optional
  point and exponent, and the names of the infinities in any case; the name
  of the undefined number gives no number.
-/

import FormLogic.Double.Shortest

namespace FormLogic
namespace Double

/-! ## Layout -/

/-- How chosen digits are laid out as text. -/
structure Layout where
  /-- From this decimal exponent of the leading digit on, an exponent is written. -/
  exponentFrom : Int
  /-- Up to this decimal exponent of the leading digit, an exponent is written. -/
  exponentUpTo : Int
  /-- The text of the exponent's sign when it is positive. -/
  plus : String

/-- Numbers carry an exponent from `10 ^ 16` up and below `10 ^ -5`. -/
def layout : Layout := ⟨16, -6, "+"⟩

/-- The decimal digits of a natural number, the leading one first. -/
def digitChars (n : Nat) : List Char := Nat.toDigits 10 n

/-- The text of a positive decimal under a layout. -/
def Layout.render (l : Layout) (d : Decimal) : String :=
  let cs := digitChars d.digits
  let count : Int := cs.length
  let lead := d.exponent + count - 1
  if l.exponentFrom ≤ lead ∨ lead ≤ l.exponentUpTo then
    let mantissa := match cs with
      | [] => ""
      | [c] => String.singleton c
      | c :: rest => String.singleton c ++ "." ++ String.ofList rest
    let sign := if lead < 0 then "-" else l.plus
    mantissa ++ "e" ++ sign ++ toString lead.natAbs
  else if 0 ≤ d.exponent then
    String.ofList (cs ++ List.replicate d.exponent.toNat '0') ++ ".0"
  else if 0 ≤ lead then
    let whole := (lead + 1).toNat
    String.ofList (cs.take whole) ++ "." ++ String.ofList (cs.drop whole)
  else
    "0." ++ String.ofList (List.replicate (-lead - 1).toNat '0' ++ cs)

/-- The text of a number: always with a point or an exponent, so that it never reads as an integer.
-/
def text (d : Double) : String :=
  let sign := if d.negative then "-" else ""
  if d.units = 0 then sign ++ "0.0" else sign ++ layout.render (shortest d.units)

end Double

/-! ## Reading -/

namespace Extended

/-- The value of a list of decimal digits, continuing from `acc`. -/
def digitsValue (acc : Nat) : List Char → Nat
  | [] => acc
  | c :: cs => digitsValue (acc * 10 + (c.toNat - '0'.toNat)) cs

theorem digitsValue_nil (acc : Nat) : digitsValue acc [] = acc := rfl

theorem digitsValue_cons (acc : Nat) (c : Char) (cs : List Char) :
    digitsValue acc (c :: cs) = digitsValue (acc * 10 + (c.toNat - '0'.toNat)) cs := by
  rfl

/-- Splits a leading sign off; `true` is a minus. -/
def splitSign : List Char → Bool × List Char
  | '+' :: cs => (false, cs)
  | '-' :: cs => (true, cs)
  | cs => (false, cs)

/-- The exponent part of a number's text: empty, or `e` with an optionally signed run of digits. -/
def readExponent : List Char → Option Int
  | [] => some 0
  | c :: cs =>
    if c = 'e' ∨ c = 'E' then
      let (negative, ds) := splitSign cs
      if ds ≠ [] ∧ ds.all Char.isDigit then
        let n : Int := digitsValue 0 ds
        some (if negative then -n else n)
      else none
    else none

/-- Digits with an optional point and an optional exponent; at least one digit stands before the
exponent. -/
def readDigits (negative : Bool) (cs : List Char) : Option Extended :=
  let whole := cs.takeWhile Char.isDigit
  let rest := cs.dropWhile Char.isDigit
  let (fraction, rest) := match rest with
    | '.' :: more => (more.takeWhile Char.isDigit, more.dropWhile Char.isDigit)
    | _ => ([], rest)
  if whole = [] ∧ fraction = [] then none
  else
    match readExponent rest with
    | none => none
    | some e =>
      let digits := digitsValue 0 (whole ++ fraction)
      match Double.ofDecimal? negative digits (e - fraction.length) with
      | some d => some (.finite d)
      | none => some (.infinite negative)

/-- Reads a number; `none` when the text is no number or names the undefined one. -/
def ofText? (text : String) : Option Extended :=
  let (negative, cs) := splitSign text.toList
  let lower := cs.map Char.toLower
  if lower = "inf".toList ∨ lower = "infinity".toList then some (.infinite negative)
  else readDigits negative cs

end Extended

end FormLogic
