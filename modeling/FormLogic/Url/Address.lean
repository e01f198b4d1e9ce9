/-
  FormLogic.Url.Address

  Numeric addresses of hosts: four bytes in decimal, octal or hexadecimal
  with dots between, and eight words in hexadecimal with colons between, of
  which a run of zeros may be left out.
-/

import FormLogic.Text.Split
import FormLogic.Url.Percent

namespace FormLogic
namespace Url

/-! ## IPv4 addresses -/

/-- The value of digits in a base, none if one is not a digit of it. -/
def digitsValue? (base : Nat) (acc : Nat) : List Char → Option Nat
  | [] => some acc
  | c :: cs =>
    match hexValue? c with
    | some d => if d < base then digitsValue? base (acc * base + d) cs else none
    | none => none

/-- A number of an IPv4 address: hexadecimal after "0x", octal after "0", else decimal. -/
def ipv4Number? (cs : List Char) : Option Nat :=
  match cs with
  | [] => none
  | '0' :: 'x' :: rest => digitsValue? 16 0 rest
  | '0' :: 'X' :: rest => digitsValue? 16 0 rest
  | '0' :: c :: rest => digitsValue? 8 0 (c :: rest)
  | cs => digitsValue? 10 0 cs

/-- The labels of a name, without an empty one at the end. -/
def addressLabels (name : List Char) : List (List Char) :=
  let labels := Text.splitOn '.' name
  if labels.getLast? = some [] then labels.dropLast else labels

/-- Whether a name ends in a number, so that it has to be an IPv4 address. -/
def endsInNumber (name : List Char) : Bool :=
  match (addressLabels name).getLast? with
  | none => false
  | some last => (last ≠ [] && last.all Char.isDigit) || (ipv4Number? last).isSome

/-- The address of one to four numbers: the last fills the bytes that the others leave. -/
def ipv4Address? (numbers : List Nat) : Option Nat :=
  let front := numbers.dropLast
  match numbers.getLast? with
  | none => none
  | some last =>
    if numbers.length ≤ 4 ∧ front.all (· ≤ 255) ∧ last < Nat.pow 256 (4 - front.length) then
      some (front.foldl (fun n b => n * 256 + b) 0 * Nat.pow 256 (4 - front.length) + last)
    else none

/-- An IPv4 address. -/
def ipv4OfText? (name : List Char) : Option Nat :=
  ((addressLabels name).mapM ipv4Number?).bind ipv4Address?

/-- The text of an IPv4 address: its four bytes. -/
def ipv4Text (n : Nat) : String :=
  ".".intercalate ((List.range 4).map fun i => toString (n / Nat.pow 256 (3 - i) % 256))

/-! ## IPv6 addresses -/

/-- The words of an IPv6 address read so far, last first, and how many of them stand before the
zeros that are left out. -/
structure Ipv6Draft where
  words : List Nat := []
  gap : Option Nat := none

/-- A decimal byte without zeros in front, and what is left. -/
def decimalByte (value : Option Nat) : List Char → Option (Nat × List Char)
  | [] => value.map fun v => (v, [])
  | c :: cs =>
    if c.isDigit then
      let d := c.toNat - '0'.toNat
      match value with
      | none => decimalByte (some d) cs
      | some 0 => none
      | some v => if v * 10 + d ≤ 255 then decimalByte (some (v * 10 + d)) cs else none
    else value.map fun v => (v, c :: cs)

/-- Four decimal bytes with dots between, to the end. -/
def decimalBytes : Nat → List Char → Option (List Nat)
  | 0, _ => none
  | n + 1, cs =>
    match decimalByte none cs with
    | none => none
    | some (b, rest) =>
      match n, rest with
      | 0, [] => some [b]
      | _, '.' :: rest => (decimalBytes n rest).map (b :: ·)
      | _, _ => none

/-- Up to four hexadecimal digits at the front: their value, and what is left. -/
def hexWord : Nat → Nat → List Char → Nat × List Char
  | 0, value, cs => (value, cs)
  | _ + 1, value, [] => (value, [])
  | n + 1, value, c :: cs =>
    match hexValue? c with
    | some d => hexWord n (value * 16 + d) cs
    | none => (value, c :: cs)

/-- The words of an IPv6 address that go on so. -/
def ipv6Words : Nat → Ipv6Draft → List Char → Option Ipv6Draft
  | 0, _, _ => none
  | _ + 1, d, [] => some d
  | n + 1, d, cs =>
    if d.words.length ≥ 8 then none
    else
      match cs with
      | ':' :: rest =>
        match d.gap with
        | some _ => none
        | none => ipv6Words n ⟨0 :: d.words, some (d.words.length + 1)⟩ rest
      | cs =>
        match hexWord 4 0 cs with
        | (value, []) => some { d with words := value :: d.words }
        | (value, ':' :: rest) =>
          if rest = [] then none else ipv6Words n { d with words := value :: d.words } rest
        | (_, '.' :: _) =>
          if d.words.length > 6 then none
          else
            match decimalBytes 4 cs with
            | some [a, b, c, e] =>
              some { d with words := (c * 256 + e) :: (a * 256 + b) :: d.words }
            | _ => none
        | _ => none

/-- The eight words of a draft: the words after the gap go to the end. -/
def Ipv6Draft.finish? (d : Ipv6Draft) : Option (List Nat) :=
  let words := d.words.reverse
  match d.gap with
  | none => if words.length = 8 then some words else none
  | some g => some (words.take g ++ List.replicate (8 - words.length) 0 ++ words.drop g)

/-- An IPv6 address without its brackets. -/
def ipv6OfText? (cs : List Char) : Option (List Nat) :=
  let draft :=
    match cs with
    | ':' :: ':' :: rest => ipv6Words (cs.length + 1) ⟨[0], some 1⟩ rest
    | ':' :: _ => none
    | _ :: _ :: _ => ipv6Words (cs.length + 1) {} cs
    | _ => none
  draft.bind Ipv6Draft.finish?

/-- The longest run of zeros, the first of several: its place and length. -/
def zeroRun (place : Nat) (current best : Nat × Nat) : List Nat → Nat × Nat
  | [] => if current.2 > best.2 then current else best
  | w :: ws =>
    if w = 0 then
      zeroRun (place + 1) (if current.2 = 0 then (place, 1) else (current.1, current.2 + 1)) best ws
    else zeroRun (place + 1) (0, 0) (if current.2 > best.2 then current else best) ws

/-- Words in hexadecimal with colons between. -/
def wordsText (ws : List Nat) : String :=
  ":".intercalate (ws.map fun w => String.ofList (Nat.toDigits 16 w))

/-- The text of an IPv6 address: the longest run of at least two zeros is left out. -/
def ipv6Text (ws : List Nat) : String :=
  let (place, length) := zeroRun 0 (0, 0) (0, 0) ws
  if length < 2 then wordsText ws
  else wordsText (ws.take place) ++ "::" ++ wordsText (ws.drop (place + length))

end Url
end FormLogic
