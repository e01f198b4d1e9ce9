/-
  FormLogic.Text.CharSet

  Sets of characters as ascending lists of ranges of code points, with the
  set operations and a reader for tables of ranges.
-/

namespace FormLogic

/-- A set of characters: ranges of code points, both ends included. -/
abbrev CharSet := List (Nat × Nat)

namespace CharSet

/-- The last code point. -/
def lastCode : Nat := 0x10ffff

/-- Whether a code point is in the set. -/
def hasCode (s : CharSet) (n : Nat) : Bool := s.any fun r => r.1 ≤ n && n ≤ r.2

/-- Whether a character is in the set. -/
def has (s : CharSet) (c : Char) : Bool := hasCode s c.toNat

/-- All characters. -/
def full : CharSet := [(0, lastCode)]

/-! ## Canonical form -/

/-- Merges ranges that touch or overlap, in a list ordered by first ends. -/
def mergeSorted : List (Nat × Nat) → CharSet
  | [] => []
  | r :: rest => go r rest
where
  /-- Extends the range at hand by those that touch it. -/
  go (current : Nat × Nat) : List (Nat × Nat) → CharSet
    | [] => [current]
    | r :: rest =>
      if r.1 ≤ current.2 + 1 then go (current.1, max current.2 r.2) rest
      else current :: go r rest

/-- The set with its ranges in ascending order, none touching another. -/
def canonical (s : CharSet) : CharSet :=
  mergeSorted (s.mergeSort fun a b => a.1 ≤ b.1)

/-! ## Operations -/

/-- The union of two sets. -/
def union (a b : CharSet) : CharSet := canonical (a ++ b)

/-- The code points from `next` on that lie outside a canonical set. -/
def gapsFrom (next : Nat) : CharSet → CharSet
  | [] => if next ≤ lastCode then [(next, lastCode)] else []
  | r :: rest =>
    if next < r.1 then (next, r.1 - 1) :: gapsFrom (r.2 + 1) rest
    else gapsFrom (r.2 + 1) rest

/-- The complement of a canonical set. -/
def negate (s : CharSet) : CharSet := gapsFrom 0 s

/-- The intersection of two canonical sets. -/
def inter (a b : CharSet) : CharSet := negate (union (negate a) (negate b))

/-- The characters of the first set that are not in the second. -/
def diff (a b : CharSet) : CharSet := inter a (negate b)

/-- The characters that are in exactly one of two sets. -/
def symmDiff (a b : CharSet) : CharSet := union (diff a b) (diff b a)

/-! ## Tables -/

/-- The value of hexadecimal digits, continuing from `acc`. -/
def hexNumber (acc : Nat) : List Char → Nat
  | [] => acc
  | c :: cs =>
    let d := if c.isDigit then c.toNat - '0'.toNat else c.toNat - 'a'.toNat + 10
    hexNumber (acc * 16 + d) cs

/-- A range written as one hexadecimal number or as two with a dash between. -/
def rangeOfText (cs : List Char) : Nat × Nat :=
  let low := cs.takeWhile (· ≠ '-')
  match cs.dropWhile (· ≠ '-') with
  | [] => (hexNumber 0 low, hexNumber 0 low)
  | _ :: high => (hexNumber 0 low, hexNumber 0 high)

/-- Adds a character to the words collected in reverse. -/
def addToWords (words : List (List Char) × List Char) (c : Char) : List (List Char) × List Char :=
  if c = ' ' then (if words.2 = [] then words else (words.2.reverse :: words.1, []))
  else (words.1, c :: words.2)

/-- The words of a line. -/
def wordsOf (line : String) : List (List Char) :=
  let (done, last) := line.toList.foldl addToWords ([], [])
  (if last = [] then done else last.reverse :: done).reverse

/-- The set of a table: lines of ranges with blanks between them. -/
def ofLines (lines : List String) : CharSet :=
  lines.flatMap fun line => (wordsOf line).map rangeOfText

end CharSet
end FormLogic
