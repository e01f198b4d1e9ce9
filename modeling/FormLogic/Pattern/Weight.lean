/-
  FormLogic.Pattern.Weight

  How much room the machines take that search for a pattern.  One reads a
  text forward and keeps the places of groups, the other reads it backward
  and keeps none.  Both have every repetition written out, and every
  character spelled in bytes.  Patterns over a limit are refused.

  Two things are left out of account.  The parts that all alternatives begin
  with are counted in each of them, and states that could be shared are taken
  to be found whenever there is one.
-/

import FormLogic.Pattern.Basic

namespace FormLogic
namespace Pattern

/-! ## Sets of characters in bytes -/

/-- The ranges of the bytes of a code point: so many bytes, each in a range. -/
abbrev ByteRanges := List (Nat × Nat)

/-- A range of code points that are spelled with the same number of bytes, and what the first byte
has besides the first digit of the code point. -/
structure SpellingBand where
  low : Nat
  high : Nat
  bytes : Nat
  mark : Nat

/-- The bands of one, two, three and four bytes. -/
def spellingBands : List SpellingBand :=
  [⟨0, 0x7f, 1, 0⟩, ⟨0x80, 0x7ff, 2, 0xc0⟩, ⟨0x800, 0xd7ff, 3, 0xe0⟩, ⟨0xe000, 0xffff, 3, 0xe0⟩,
    ⟨0x10000, 0x10ffff, 4, 0xf0⟩]

/-- The parts of a range of numbers of so many base-64 digits whose digits vary independently,
each part as ranges of its digits. -/
def digitRanges : Nat → Nat → Nat → List ByteRanges
  | 0, low, high => [[(low, high)]]
  | digits + 1, low, high =>
    let unit := Nat.pow 64 (digits + 1)
    let top := low / unit
    let last := high / unit
    let rest (lo hi : Nat) := digitRanges digits lo hi
    if top = last then (rest (low % unit) (high % unit)).map ((top, top) :: ·)
    else
      let whole := rest 0 (unit - 1)
      let first := (rest (low % unit) (unit - 1)).map ((top, top) :: ·)
      let final := (rest 0 (high % unit)).map ((last, last) :: ·)
      let fromTop := if low % unit = 0 then top else top + 1
      let toTop := if high % unit = unit - 1 then last else last - 1
      (if low % unit = 0 then [] else first)
        ++ (if fromTop ≤ toTop then whole.map ((fromTop, toTop) :: ·) else [])
        ++ (if high % unit = unit - 1 then [] else final)

/-- The spelling whose first byte has a mark; the bytes after it have another. -/
def markBytes (mark : Nat) : ByteRanges → ByteRanges
  | [] => []
  | first :: later =>
    (mark + first.1, mark + first.2) :: later.map fun r => (0x80 + r.1, 0x80 + r.2)

/-- The spellings of a range of code points. -/
def spellings (r : Nat × Nat) : List ByteRanges :=
  spellingBands.flatMap fun band =>
    let low := max band.low r.1
    let high := min band.high r.2
    if low ≤ high then (digitRanges (band.bytes - 1) low high).map (markBytes band.mark) else []

/-- The spellings that begin alike put together: how they begin, and what follows in each. -/
def byFront : List ByteRanges → List ((Nat × Nat) × List ByteRanges)
  | [] => []
  | [] :: rest => byFront rest
  | (r :: tail) :: rest =>
    match byFront rest with
    | (front, tails) :: more =>
      if front = r then (r, tail :: tails) :: more else (r, [tail]) :: (front, tails) :: more
    | [] => [(r, [tail])]

/-- What is left of spellings at each place within them, given how long they are at most. -/
def remainders : Nat → List ByteRanges → List (List ByteRanges)
  | 0, _ => []
  | length + 1, spelled =>
    match byFront spelled with
    | [] => []
    | fronts => spelled :: fronts.flatMap fun f => remainders length f.2

/-- How many steps two spellings have in common at the front. -/
def commonFront : ByteRanges → ByteRanges → Nat
  | a :: as, b :: bs => if a = b then commonFront as bs + 1 else 0
  | _, _ => 0

/-- The steps of spellings in which each shares the front with the one before. -/
def spellingSteps (previous : ByteRanges) : List ByteRanges → Nat
  | [] => 0
  | s :: rest => (s.length - commonFront previous s) + spellingSteps s rest

/-! ## The room of parts -/

/-- Which way a machine reads. -/
inductive Direction where
  | forward
  | backward
deriving DecidableEq, Repr

/-- The room of one state. -/
def stateRoom : Nat := 32

/-- The room of one range of bytes in a state. -/
def rangeRoom : Nat := 8

/-- The room of one state that may come next. -/
def branchRoom : Nat := 4

namespace Direction

/-- The room of the marks around a group. -/
def groupRoom : Direction → Nat
  | forward => 2 * stateRoom
  | backward => 0

/-- The room of a set of characters.  Forward, what is left of spellings is one state however it is
come by; backward, spellings have the states in common with which they begin. -/
def setRoom (d : Direction) (s : CharSet) : Nat :=
  if s.all fun r => r.2 < 0x80 then 2 * stateRoom + rangeRoom * s.length
  else
    let spelled := s.flatMap spellings
    match d with
    | forward =>
      let states := (remainders 5 spelled).eraseDups
      let ranges := states.foldl (fun count state => count + (byFront state).length) 0
      stateRoom * (states.length + 1) + rangeRoom * ranges
    | backward => stateRoom * (spellingSteps [] spelled + 2) + branchRoom * spelled.length

/-- The bytes of a text in the order in which they are read. -/
def order (d : Direction) (bytes : ByteRanges) : ByteRanges :=
  match d with
  | forward => bytes
  | backward => bytes.reverse

/-- The room of a choice between texts: they have the states in common with which they begin. -/
def textsRoom (d : Direction) (texts : List ByteRanges) : Nat :=
  let texts := texts.map d.order
  let fronts := (texts.flatMap fun t => (List.range t.length).map t.take).eraseDups
  fronts.foldl (fun room front =>
    let next := texts.filterMap fun t => if front.isPrefixOf t then t[front.length]? else none
    let ranges := next.eraseDups.length
    room + 2 * stateRoom + branchRoom
      + (if ranges = 1 then 0 else rangeRoom * ranges)
      + (if texts.contains front then branchRoom else 0)) stateRoom

/-- The room of what a machine has besides the pattern: to begin anywhere, and to report a match
and its place. -/
def frameRoom (d : Direction) : Nat := 4 * stateRoom + rangeRoom + 2 * branchRoom + d.groupRoom

end Direction

/-! ## The room of patterns -/

/-- Whether a pattern can match without a character, as far as its parts tell. -/
def mayBeEmpty : Pattern → Bool
  | .empty => true
  | .chars s => s.isEmpty
  | .assertion _ => true
  | .seq a b => a.mayBeEmpty && b.mayBeEmpty
  | .alt a b => a.mayBeEmpty || b.mayBeEmpty
  | .group p => p.mayBeEmpty
  | .repeated p min _ => min = 0 || p.mayBeEmpty

/-- Whether a pattern cannot match a character. -/
def isEmptyOnly : Pattern → Bool
  | .empty => true
  | .chars _ => false
  | .assertion _ => true
  | .seq a b => a.isEmptyOnly && b.isEmptyOnly
  | .alt a b => a.isEmptyOnly && b.isEmptyOnly
  | .group p => p.isEmptyOnly
  | .repeated p _ max => max = some 0 || p.isEmptyOnly

/-- What counts of a pattern: the room of its alternatives without what joins them, and how many
they are, none for the empty pattern; the set of characters or the texts that it is a choice
between, if it is no more than that. -/
structure Shape where
  room : Nat
  branches : Nat := 1
  set : Option CharSet := none
  texts : Option (List ByteRanges) := none

namespace Shape

/-- The shape of what matches nothing but the empty text. -/
def empty : Shape := { room := 0, branches := 0 }

/-- The shape of a set of characters; a single character is a text. -/
def ofSet (d : Direction) (s : CharSet) : Shape :=
  match s with
  | [r] =>
    if r.1 = r.2 then
      let text := (spellings r).flatten
      { room := stateRoom * text.length, set := some s, texts := some [text] }
    else { room := d.setRoom s, set := some s }
  | s => { room := d.setRoom s, set := some s }

/-- The room of a pattern by itself. -/
def whole (d : Direction) (s : Shape) : Nat :=
  match s.branches with
  | 0 => stateRoom
  | 1 => s.room
  | n =>
    match s.set, s.texts with
    | some set, _ => (ofSet d set).room
    | none, some texts => d.textsRoom texts
    | none, none => s.room + 2 * stateRoom + branchRoom * n

/-- The shape of one pattern after another; the empty one does not count. -/
def seq (d : Direction) (a b : Shape) : Shape :=
  if a.branches = 0 then b
  else if b.branches = 0 then a
  else
    { room := a.whole d + b.whole d
      texts :=
        match a.texts, b.texts with
        | some [x], some [y] => some [x ++ y]
        | _, _ => none }

/-- The shape as one of several alternatives. -/
def branch (s : Shape) : Shape := if s.branches = 0 then { room := stateRoom } else s

/-- The shape of a choice. -/
def alt (a b : Shape) : Shape :=
  let a := a.branch
  let b := b.branch
  { room := a.room + b.room
    branches := a.branches + b.branches
    set := match a.set, b.set with
      | some s, some t => some (CharSet.union s t)
      | _, _ => none
    texts := match a.texts, b.texts with
      | some xs, some ys => some (xs ++ ys)
      | _, _ => none }

/-- The shape of a repetition of what can be empty or not. -/
def repeated (d : Direction) (s : Shape) (mayBeEmpty : Bool) (min : Nat) (max : Option Nat) :
    Shape :=
  let room := s.whole d
  let choice := stateRoom + 2 * branchRoom
  match min, max with
  | 0, some 0 => empty
  | 1, some 1 => s
  | 0, some 1 => { room := room + choice + stateRoom }
  | 0, none =>
    { room := if mayBeEmpty then room + 2 * choice + stateRoom else room + choice }
  | min, none => { room := min * room + choice }
  | min, some max =>
    if min = max then { room := min * room }
    else
      { room := Nat.max stateRoom (min * room) + stateRoom + (max - min) * (room + choice) }

end Shape

/-- The shape of a pattern.  What cannot match a character is repeated once at most. -/
def shape (d : Direction) : Pattern → Shape
  | .empty => Shape.empty
  | .chars s => Shape.ofSet d s
  | .assertion _ => { room := stateRoom }
  | .seq a b => Shape.seq d (a.shape d) (b.shape d)
  | .alt a b => Shape.alt (a.shape d) (b.shape d)
  | .group p => { room := (p.shape d).whole d + d.groupRoom }
  | .repeated p min max =>
    if p.isEmptyOnly then
      Shape.repeated d (p.shape d) true (Nat.min min 1) (some (Nat.min (max.getD 1) 1))
    else Shape.repeated d (p.shape d) p.mayBeEmpty min max

/-- The room of the machine that searches for a pattern. -/
def room (d : Direction) (p : Pattern) : Nat := (p.shape d).whole d + d.frameRoom

/-- The weight of a pattern: the room of the larger machine. -/
def weight (p : Pattern) : Nat := Nat.max (p.room .forward) (p.room .backward)

/-- The weight from which on patterns are refused. -/
def weightLimit : Nat := 10 * 1024 * 1024

end Pattern
end FormLogic
