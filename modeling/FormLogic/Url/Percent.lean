/-
  FormLogic.Url.Percent

  Bytes written as a percent sign and two hexadecimal digits, and the sets
  of characters that each part of an address writes so.
-/

import FormLogic.Text.Utf8

namespace FormLogic
namespace Url

/-! ## Sets of characters to be written as bytes -/

/-- Controls and characters from 127 on. -/
def escapesControls (c : Char) : Bool := c.toNat < 0x20 || 0x7f ≤ c.toNat

/-- What the fragment does not show as it is. -/
def escapesFragment (c : Char) : Bool := escapesControls c || [' ', '"', '<', '>', '`'].contains c

/-- What the path does not show as it is. -/
def escapesPath (c : Char) : Bool :=
  escapesFragment c || ['#', '?', '\x7b', '\x7d'].contains c

/-- What a user's name and password do not show as they are. -/
def escapesUser (c : Char) : Bool :=
  escapesPath c || ['/', ':', ';', '=', '@', '[', '\\', ']', '^', '|'].contains c

/-- What the query does not show as it is. -/
def escapesQuery (c : Char) : Bool := escapesControls c || [' ', '"', '#', '<', '>'].contains c

/-- What the query does not show as it is in addresses with a known scheme. -/
def escapesSpecialQuery (c : Char) : Bool := escapesQuery c || c = '\''

/-! ## Writing -/

/-- A hexadecimal digit, letters large. -/
def hexDigit (n : Nat) : Char :=
  if n < 10 then Char.ofNat ('0'.toNat + n) else Char.ofNat ('A'.toNat + (n - 10))

/-- A byte as a percent sign and two digits. -/
def escapeByte (b : UInt8) : List Char := ['%', hexDigit (b.toNat / 16), hexDigit (b.toNat % 16)]

/-- A character, as its bytes if it is in the set. -/
def escapeChar (set : Char → Bool) (c : Char) : List Char :=
  if set c then (String.utf8EncodeChar c).flatMap escapeByte else [c]

/-- Characters, those of the set as their bytes. -/
def escape (set : Char → Bool) (cs : List Char) : List Char := cs.flatMap (escapeChar set)

/-! ## Reading -/

/-- The value of a hexadecimal digit. -/
def hexValue? (c : Char) : Option Nat :=
  if '0' ≤ c ∧ c ≤ '9' then some (c.toNat - '0'.toNat)
  else if 'a' ≤ c ∧ c ≤ 'f' then some (c.toNat - 'a'.toNat + 10)
  else if 'A' ≤ c ∧ c ≤ 'F' then some (c.toNat - 'A'.toNat + 10)
  else none

/-- The byte of a percent sign and two digits at the front, and what is left. -/
def unescapeByte? (cs : List Char) : Option (UInt8 × List Char) :=
  match cs with
  | a :: b :: rest =>
    match hexValue? a, hexValue? b with
    | some x, some y => some (UInt8.ofNat (x * 16 + y), rest)
    | _, _ => none
  | _ => none

/-- The bytes that characters stand for; a percent sign without two digits stands for itself. -/
def unescapeFuel : Nat → List Char → List UInt8
  | 0, _ => []
  | _ + 1, [] => []
  | n + 1, c :: cs =>
    if c = '%' then
      match unescapeByte? cs with
      | some (b, rest) => b :: unescapeFuel n rest
      | none => String.utf8EncodeChar c ++ unescapeFuel n cs
    else String.utf8EncodeChar c ++ unescapeFuel n cs

/-- The bytes that characters stand for. -/
def unescape (cs : List Char) : List UInt8 := unescapeFuel cs.length cs

end Url
end FormLogic
