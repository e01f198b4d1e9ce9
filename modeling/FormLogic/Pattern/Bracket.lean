/-
  FormLogic.Pattern.Bracket

  Classes of characters in brackets: characters, ranges, named classes and
  classes within classes, combined by union, intersection, difference and
  symmetric difference, and possibly negated as a whole.
-/

import FormLogic.Pattern.Escape

namespace FormLogic
namespace Pattern

/-! ## Classes under construction -/

/-- The items of a class read so far: their union, their number, and how deep they nest. -/
structure Items where
  set : CharSet := []
  count : Nat := 0
  depth : Nat := 0

namespace Items

/-- The items with one more. -/
def add (u : Items) (s : CharSet) (depth : Nat) : Items :=
  ⟨CharSet.union u.set s, u.count + 1, max u.depth depth⟩

/-- How deep the items nest as one operand: several make up a level of their own. -/
def height (u : Items) : Nat := if u.count < 2 then u.depth else u.depth + 1

end Items

/-- How two classes are combined. -/
inductive SetOperator where
  | inter
  | diff
  | symmDiff
deriving DecidableEq, Repr

namespace SetOperator

/-- The combination of two sets. -/
def apply : SetOperator → CharSet → CharSet → CharSet
  | inter => CharSet.inter
  | diff => CharSet.diff
  | symmDiff => CharSet.symmDiff

end SetOperator

/-- The left operand of an operator whose right one is being read. -/
structure LeftOperand where
  operator : SetOperator
  set : CharSet
  height : Nat

/-- An open bracket: whether its class is negated, the operand before, and the items around. -/
structure OpenBracket where
  negated : Bool
  left : Option LeftOperand
  around : Items

/-- The class made of the operand before, if there is one, and the items read; with its height. -/
def combineLeft (f : Flags) (left : Option LeftOperand) (u : Items) : CharSet × Nat :=
  match left with
  | none => (u.set, u.height)
  | some l => (l.operator.apply (f.fold l.set) (f.fold u.set), max l.height u.height + 1)

/-! ## Parts of a class -/

/-- Dashes at the front of a class stand for themselves. -/
def leadingDashes (f : Flags) (u : Items) : Nat → List Char → Items × List Char
  | 0, cs => (u, cs)
  | n + 1, cs =>
    match cs with
    | '-' :: rest => leadingDashes f (u.add [(0x2d, 0x2d)] 0) n (f.skip rest)
    | cs => (u, cs)

/-- The front of a class: a caret negates it, and dashes or a closing bracket there stand for
themselves. -/
def openClass (f : Flags) (cs : List Char) : Bool × Items × List Char :=
  let cs := f.skip cs
  let (negated, cs) :=
    match cs with
    | '^' :: rest => (true, f.skip rest)
    | cs => (false, cs)
  let (u, cs) := leadingDashes f {} cs.length cs
  match u.count, cs with
  | 0, ']' :: rest => (negated, u.add [(0x5d, 0x5d)] 0, f.skip rest)
  | _, cs => (negated, u, cs)

/-- A class named by a word between colons, the opening bracket being read; nothing if the
bracket opens a class within the class. -/
def wordClass? (cs : List Char) : Option (CharSet × Bool × List Char) :=
  match cs with
  | ':' :: rest =>
    let (negated, rest) :=
      match rest with
      | '^' :: rest => (true, rest)
      | rest => (false, rest)
    match rest.dropWhile (· ≠ ':') with
    | ':' :: ']' :: after =>
      (bracketClass? (String.ofList (rest.takeWhile (· ≠ ':')))).map fun s => (s, negated, after)
    | _ => none
  | _ => none

/-- One character or escape of a class. -/
def classAtom (f : Flags) (cs : List Char) : Read Atom :=
  match cs with
  | [] => none
  | '\\' :: rest => escape f rest
  | c :: rest => some (.literal c false, rest)

/-- The character that an atom stands for as the end of a range. -/
def rangeEnd? (f : Flags) (a : Atom) : Option Char :=
  match a with
  | .literal c asByte =>
    match literal? f c asByte with
    | some c => if f.unicode || c.toNat < 0x80 then some c else none
    | none => none
  | _ => none

/-- The characters of an atom of a class. -/
def atomSet? (f : Flags) (a : Atom) : Option CharSet :=
  match a with
  | .set s => some s
  | a => (rangeEnd? f a).map fun c => [(c.toNat, c.toNat)]

/-- The character that counts after a dash, with blanks and the mark of a remark passed over. -/
def peekAfterDash (f : Flags) (cs : List Char) : Option Char :=
  if f.ignoreBlanks then
    match cs.dropWhile Text.isBlank with
    | '#' :: rest => (rest.dropWhile Text.isBlank).head?
    | cs => cs.head?
  else cs.head?

/-- An atom or a range of a class. -/
def classRange (f : Flags) (cs : List Char) : Read CharSet :=
  match classAtom f cs with
  | none => none
  | some (low, rest) =>
    let single (rest : List Char) : Read CharSet := (atomSet? f low).map fun s => (s, rest)
    match f.skip rest with
    | [] => none
    | '-' :: more =>
      if peekAfterDash f more = some ']' ∨ peekAfterDash f more = some '-' then
        single ('-' :: more)
      else
        match classAtom f (f.skip more) with
        | none => none
        | some (high, rest) =>
          match rangeEnd? f low, rangeEnd? f high with
          | some a, some b => if a ≤ b then some ([(a.toNat, b.toNat)], rest) else none
          | _, _ => none
    | rest => single rest

/-! ## Whole classes -/

/-- The operator at the front. -/
def setOperator? (cs : List Char) : Option (SetOperator × List Char) :=
  match cs with
  | '&' :: '&' :: rest => some (.inter, rest)
  | '-' :: '-' :: rest => some (.diff, rest)
  | '~' :: '~' :: rest => some (.symmDiff, rest)
  | _ => none

/-- Reads on in a class: the open brackets, innermost first, and the items of the innermost. -/
def classBody (f : Flags) : Nat → List OpenBracket → Items → List Char → Read (CharSet × Nat)
  | 0, _, _, _ => none
  | _ + 1, [], _, _ => none
  | n + 1, bracket :: outer, u, cs =>
    match f.skip cs with
    | [] => none
    | '[' :: rest =>
      match wordClass? rest with
      | some (s, negated, rest) =>
        match f.negate? negated (f.fold s) with
        | some s => classBody f n (bracket :: outer) (u.add s 0) rest
        | none => none
      | none =>
        let (negated, inner, rest) := openClass f rest
        classBody f n (⟨negated, none, u⟩ :: bracket :: outer) inner rest
    | ']' :: rest =>
      let (s, height) := combineLeft f bracket.left u
      match f.negate? bracket.negated (CharSet.canonical (f.fold s)) with
      | none => none
      | some s =>
        match outer with
        | [] => some ((s, height + 1), rest)
        | outer => classBody f n outer (bracket.around.add s (height + 1)) rest
    | cs =>
      match setOperator? cs with
      | some (operator, rest) =>
        let (s, height) := combineLeft f bracket.left u
        classBody f n ({ bracket with left := some ⟨operator, s, height⟩ } :: outer) {} rest
      | none =>
        match classRange f cs with
        | some (s, rest) => classBody f n (bracket :: outer) (u.add s 0) rest
        | none => none

/-- A class after its opening bracket, with how deep it nests. -/
def bracketed (f : Flags) (cs : List Char) : Read (CharSet × Nat) :=
  let (negated, u, rest) := openClass f cs
  classBody f (rest.length + 1) [⟨negated, none, {}⟩] u rest

end Pattern
end FormLogic
