/-
  FormLogic.Json.Parser.Strings

  Quoted strings with their escapes.  A hexadecimal escape names a 16-bit
  unit; two that form a surrogate pair name one character, and a half on its
  own is refused.
-/

import FormLogic.Json.Parser.Fault

namespace FormLogic
namespace Json.Parser

/-- The value of a hexadecimal digit. -/
def hexValue? (c : Char) : Option Nat :=
  if '0' ≤ c ∧ c ≤ '9' then some (c.toNat - '0'.toNat)
  else if 'a' ≤ c ∧ c ≤ 'f' then some (c.toNat - 'a'.toNat + 10)
  else if 'A' ≤ c ∧ c ≤ 'F' then some (c.toNat - 'A'.toNat + 10)
  else none

/-- Four hexadecimal digits. -/
def hexFour (s : List Char) : Step Nat s :=
  match s with
  | a :: b :: c :: d :: r =>
    match hexValue? a, hexValue? b, hexValue? c, hexValue? d with
    | some w, some x, some y, some z =>
      .ok (((w * 16 + x) * 16 + y) * 16 + z, ⟨r, by simp; omega⟩)
    | _, _, _, _ => .error ⟨.invalidEscape, byteCount s - 4⟩
  | _ =>
    if byteCount s < 4 then .error ⟨.eofInString, 0⟩
    else .error ⟨.invalidEscape, byteCount s - 4⟩

/-- The second half of a surrogate pair whose first half was `high`. -/
def lowSurrogate (high : Nat) (s : List Char) : Step Char s :=
  match s with
  | [] => .error (.here .eofInString [])
  | c :: r =>
    if c ≠ '\\' then .error (.past .unexpectedEndOfEscape (c :: r))
    else
      match r with
      | [] => .error (.here .eofInString [])
      | u :: r' =>
        if u ≠ 'u' then .error (.past .unexpectedEndOfEscape (u :: r'))
        else
          match hexFour r' with
          | .error f => .error f
          | .ok (low, rest) =>
            if low < 0xDC00 ∨ 0xDFFF < low then .error (.here .loneSurrogate rest.1)
            else
              .ok (Char.ofNat ((high - 0xD800) * 0x400 + (low - 0xDC00) + 0x10000),
                ⟨rest.1, by have := rest.2; simp; omega⟩)

/-- The character of a hexadecimal escape, behind its `u`. -/
def hexEscape (s : List Char) : Step Char s :=
  match hexFour s with
  | .error f => .error f
  | .ok (n, rest) =>
    if 0xDC00 ≤ n ∧ n ≤ 0xDFFF then .error (.here .loneSurrogate rest.1)
    else if n < 0xD800 ∨ 0xDBFF < n then .ok (Char.ofNat n, rest)
    else Step.widen (Nat.le_of_lt rest.2) (lowSurrogate n rest.1)

/-- The character of an escape, behind its backslash. -/
def escape (s : List Char) : Step Char s :=
  match s with
  | [] => .error (.here .eofInString [])
  | c :: r =>
    let one (d : Char) : Step Char (c :: r) := .ok (d, ⟨r, by simp⟩)
    match c with
    | '"' => one '"'
    | '\\' => one '\\'
    | '/' => one '/'
    | 'b' => one '\x08'
    | 'f' => one '\x0c'
    | 'n' => one '\n'
    | 'r' => one '\r'
    | 't' => one '\t'
    | 'u' => Step.widen (by simp) (hexEscape r)
    | _ => .error (.past .invalidEscape (c :: r))

/-- The characters of a string up to its closing quote, collected in reverse. -/
def stringBody (acc : List Char) (s : List Char) : Step String s :=
  match s with
  | [] => .error (.here .eofInString [])
  | c :: r =>
    if c = '"' then .ok (String.ofList acc.reverse, ⟨r, by simp⟩)
    else if c = '\\' then
      match escape r with
      | .error f => .error f
      | .ok (d, rest) =>
        have := rest.2
        Step.widen (by simp; omega) (stringBody (d :: acc) rest.1)
    else if c.toNat < 0x20 then .error (.past .controlCharacter (c :: r))
    else Step.widen (by simp) (stringBody (c :: acc) r)
termination_by s.length
decreasing_by all_goals simp_all <;> omega

end Json.Parser
end FormLogic
