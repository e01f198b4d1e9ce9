/-
  FormLogic.Path

  Dotted paths into a document.  `resolve` looks a path up: a member whose
  name is the whole path comes first, so that documents with dotted names
  answer as nested ones do; otherwise the path is walked segment by segment.
  `join` puts a path and a further segment together.

  Specification, section 4.1 (path resolver).
-/

import FormLogic.Json.Basic
import FormLogic.Text.Split

namespace FormLogic
namespace Path

/-- The segments of a path. -/
def segments (path : String) : List String := Text.pieces '.' path

/-- The number that a segment spells: decimal digits with an optional plus sign. -/
def number? (segment : String) : Option Nat :=
  let digits := match segment.toList with
    | '+' :: cs => cs
    | cs => cs
  if digits ≠ [] ∧ digits.all Char.isDigit then some (Extended.digitsValue 0 digits) else none

/-- Array positions are below this. -/
def positionLimit : Nat := Nat.pow 2 64

/-- The array position that a segment names. -/
def position? (segment : String) : Option Nat :=
  (number? segment).filter fun n => decide (n < positionLimit)

/-- The entry of a list that a segment names; a number past the end names none, however large
it is. -/
def itemAt? (items : List Json) (segment : String) : Option Json :=
  (number? segment).bind fun i => items[i]?

/-- A list that has no more entries than there are positions has none beyond the limit. -/
theorem itemAt?_eq_position? {items : List Json} (h : items.length ≤ positionLimit)
    (segment : String) :
    itemAt? items segment = (position? segment).bind fun i => items[i]? := by
  simp only [itemAt?, position?]
  cases number? segment with
  | none => rfl
  | some n =>
    by_cases hn : n < positionLimit
    · simp [Option.filter, hn]
    · have hout : items[n]? = none := List.getElem?_eq_none (by omega)
      simp [Option.filter, hn, hout]

/-- The value that one segment leads to. -/
def step (v : Json) (segment : String) : Option Json :=
  match v with
  | .object members => Dict.get? members segment
  | .array items => itemAt? items segment
  | _ => none

/-- The value that segments lead to, one after the other. -/
def walk (v : Json) : List String → Option Json
  | [] => some v
  | s :: rest => (step v s).bind fun w => walk w rest

/-- The value at a path; the empty path has none. -/
def resolve (v : Json) (path : String) : Option Json :=
  if path = "" then none
  else
    match v.members?.bind fun members => Dict.get? members path with
    | some w => some w
    | none => walk v (segments path)

/-- A path and one more segment. -/
def join (parent child : String) : String :=
  if parent = "" then child else parent ++ "." ++ child

/-- Walking is done piece by piece. -/
theorem walk_append (v : Json) (xs ys : List String) :
    walk v (xs ++ ys) = (walk v xs).bind fun w => walk w ys := by
  induction xs generalizing v with
  | nil => rfl
  | cons s xs ih =>
    simp only [List.cons_append, walk]
    cases step v s with
    | none => rfl
    | some w => simp [ih]

end Path
end FormLogic
