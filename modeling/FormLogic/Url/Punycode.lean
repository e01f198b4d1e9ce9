/-
  FormLogic.Url.Punycode

  Labels of host names in letters, digits and hyphens: the plain characters
  come first, then for each other character how far it lies, in the order of
  code points and places, after the one before.  The distances are written
  as numbers whose digits have weights that adapt to what was written.
-/

namespace FormLogic
namespace Url
namespace Punycode

/-! ## Digits and thresholds -/

def base : Nat := 36

/-- The first code point that is not plain. -/
def firstCode : Nat := 128

def firstBias : Nat := 72

/-- The digit of a value: letters, then figures. -/
def digitChar (d : Nat) : Char :=
  if d < 26 then Char.ofNat ('a'.toNat + d) else Char.ofNat ('0'.toNat + (d - 26))

/-- The value of a digit. -/
def digitValue? (c : Char) : Option Nat :=
  if 'a' ≤ c ∧ c ≤ 'z' then some (c.toNat - 'a'.toNat)
  else if 'A' ≤ c ∧ c ≤ 'Z' then some (c.toNat - 'A'.toNat)
  else if '0' ≤ c ∧ c ≤ '9' then some (c.toNat - '0'.toNat + 26)
  else none

/-- The least digit that does not end a number, at a place counted in bases. -/
def threshold (bias place : Nat) : Nat := Nat.min 26 (Nat.max 1 (place - bias))

/-- Halves the distances' scale: how often it has to be done, and what is left. -/
def scaleDown : Nat → Nat → Nat → Nat × Nat
  | 0, delta, places => (delta, places)
  | n + 1, delta, places =>
    if delta > 455 then scaleDown n (delta / 35) (places + base) else (delta, places)

/-- The bias after a distance, the number of characters written, and whether it is the first. -/
def adapt (delta count : Nat) (first : Bool) : Nat :=
  let delta := if first then delta / 700 else delta / 2
  let delta := delta + delta / count
  let (delta, places) := scaleDown delta delta 0
  places + 36 * delta / (delta + 38)

/-! ## Writing -/

/-- The digits of a distance. -/
def distanceDigits (bias : Nat) : Nat → Nat → Nat → List Char
  | 0, _, _ => []
  | n + 1, place, q =>
    let t := threshold bias place
    if q < t then [digitChar q]
    else
      digitChar (t + (q - t) % (base - t))
        :: distanceDigits bias n (place + base) ((q - t) / (base - t))

/-- Writing in progress: the digits so far, the distance since the last character, the bias, and
how many characters are written. -/
structure Writer where
  digits : List Char
  delta : Nat
  bias : Nat
  count : Nat

/-- One character of the label while those with a given code point are written. -/
def writeChar (code plain : Nat) (w : Writer) (n : Nat) : Writer :=
  if n < code then { w with delta := w.delta + 1 }
  else if n = code then
    { digits := w.digits ++ distanceDigits w.bias (w.delta + 1) base w.delta
      delta := 0
      bias := adapt w.delta (w.count + 1) (w.count = plain)
      count := w.count + 1 }
  else w

/-- Writes the characters with each of a list of ascending code points. -/
def writeCodes (label : List Nat) (plain : Nat) (w : Writer) (next : Nat) : List Nat → Writer
  | [] => w
  | code :: rest =>
    let w := { w with delta := w.delta + (code - next) * (w.count + 1) }
    let w := label.foldl (writeChar code plain) w
    writeCodes label plain { w with delta := w.delta + 1 } (code + 1) rest

/-- A label in plain characters. -/
def encode (label : List Char) : List Char :=
  let plain := label.filter fun c => c.toNat < firstCode
  let codes := ((label.map Char.toNat).filter fun n => firstCode ≤ n).mergeSort.eraseDups
  let w := writeCodes (label.map Char.toNat) plain.length ⟨[], 0, firstBias, plain.length⟩
    firstCode codes
  plain ++ (if plain = [] then [] else ['-']) ++ w.digits

/-! ## Reading -/

/-- Reading in progress: the characters so far, the next code point, the place to put it, and of
the distance being read the place where it began, the weight and place of its next digit. -/
structure Reader where
  chars : List Nat
  code : Nat := firstCode
  index : Nat := 0
  bias : Nat := firstBias
  start : Nat := 0
  weight : Nat := 1
  place : Nat := base

/-- The largest number that distances may add up to. -/
def indexLimit : Nat := Nat.pow 2 32

/-- One digit more. -/
def Reader.push? (r : Reader) (c : Char) : Option Reader :=
  match digitValue? c with
  | none => none
  | some d =>
    let index := r.index + d * r.weight
    if index ≥ indexLimit then none
    else
      let t := threshold r.bias r.place
      if d < t then
        let size := r.chars.length + 1
        let code := r.code + index / size
        let index := index % size
        if code < 0xd800 ∨ (0xdfff < code ∧ code < 0x110000) then
          some { chars := r.chars.take index ++ code :: r.chars.drop index
                 code := code
                 index := index + 1
                 bias := adapt (r.index + d * r.weight - r.start) size (r.start = 0)
                 start := index + 1 }
        else none
      else some { r with index := index, weight := r.weight * (base - t), place := r.place + base }

/-- Digits, one after the other. -/
def Reader.pushAll? (r : Reader) : List Char → Option Reader
  | [] => some r
  | c :: cs =>
    match r.push? c with
    | some r => r.pushAll? cs
    | none => none

/-- The plain characters before the last hyphen and the digits after it; a hyphen in front does
not count. -/
def splitPlain (cs : List Char) : List Char × List Char :=
  match (cs.reverse.dropWhile (· ≠ '-')).reverse.dropLast with
  | [] => ([], cs)
  | plain => (plain, cs.drop (plain.length + 1))

/-- The label that plain characters stand for. -/
def decode? (cs : List Char) : Option (List Char) :=
  let (plain, digits) := splitPlain cs
  match (Reader.mk (plain.map Char.toNat) firstCode 0 firstBias 0 1 base).pushAll? digits with
  | some r => if r.place = base then some (r.chars.map Char.ofNat) else none
  | none => none

end Punycode
end Url
end FormLogic
