/-
  FormLogic.Pattern.Parser

  Reading patterns: alternatives of sequences of parts, each perhaps
  repeated; groups, with switches that hold to their end; what cannot be
  searched for in one pass over the text (looking around, referring back) is
  refused.

  A pattern that takes too much room is refused as well (`weight`).  Why a
  text is no pattern is told in a word: at which place of it, and what was
  expected there, is not worked out.

  Specification, section 4.5: a pattern is read when a form is compiled, and one
  that cannot be read is a defect of the form.
-/

import FormLogic.Pattern.Bracket
import FormLogic.Pattern.Weight

namespace FormLogic
namespace Pattern

/-! ## Groups under construction -/

/-- A part of a sequence: its pattern, how deep it nests, and whether it can be repeated. -/
structure Piece where
  pattern : Pattern
  height : Nat := 0
  repeatable : Bool := true

/-- A group being read: its last sequence and the alternatives before it, both last first, the
switches to go back to after it, and whether the place that it matches is kept. -/
structure Group where
  pieces : List Piece := []
  branches : List Piece := []
  after : Flags := {}
  keeps : Bool := false

namespace Group

/-- Pieces, last first, put in sequence before a pattern. -/
def chain (tail : Pattern) : List Piece → Pattern
  | [] => tail
  | p :: ps => chain (.seq p.pattern tail) ps

/-- Branches, last first, put before a pattern as its alternatives. -/
def choice (tail : Pattern) : List Piece → Pattern
  | [] => tail
  | p :: ps => choice (.alt p.pattern tail) ps

/-- The greatest height of pieces. -/
def tallest (ps : List Piece) : Nat := (ps.map (·.height)).foldl max 0

/-- The last sequence as one piece: several pieces make up a level of their own. -/
def sequence (g : Group) : Piece :=
  match g.pieces with
  | [] => ⟨.empty, 0, true⟩
  | [p] => ⟨p.pattern, p.height, true⟩
  | p :: ps => ⟨chain p.pattern ps, tallest (p :: ps) + 1, true⟩

/-- The group as one piece: several alternatives make up a level of their own. -/
def whole (g : Group) : Piece :=
  match g.branches with
  | [] => g.sequence
  | bs => ⟨choice g.sequence.pattern bs, tallest (g.sequence :: bs) + 1, true⟩

/-- The group with another piece. -/
def push (g : Group) (p : Piece) : Group := { g with pieces := p :: g.pieces }

/-- The group with its last sequence finished. -/
def nextBranch (g : Group) : Group :=
  { g with pieces := [], branches := g.sequence :: g.branches }

/-- The group with its last piece repeated. -/
def repeatLast? (g : Group) (min : Nat) (max : Option Nat) : Option Group :=
  match g.pieces with
  | p :: ps =>
    if p.repeatable then
      some { g with pieces := ⟨.repeated p.pattern min max, p.height + 1, true⟩ :: ps }
    else none
  | [] => none

end Group

/-! ## Repetitions -/

/-- A number between blanks. -/
def count (f : Flags) (cs : List Char) : Read Nat :=
  let cs := cs.dropWhile Text.isBlank
  let (value, rest) := digits cs.length none cs
  match value with
  | some n => if n < Nat.pow 2 32 then some (n, blanks rest.length rest) else none
  | none => none
where
  /-- The digits at the front. -/
  digits : Nat → Option Nat → List Char → Option Nat × List Char
    | 0, value, cs => (value, cs)
    | _ + 1, value, [] => (value, [])
    | n + 1, value, c :: cs =>
      if c.isDigit then
        digits n (some (value.getD 0 * 10 + (c.toNat - '0'.toNat))) (f.skip cs)
      else (value, c :: cs)
  /-- What is left after blanks. -/
  blanks : Nat → List Char → List Char
    | 0, cs => cs
    | _ + 1, [] => []
    | n + 1, c :: cs => if Text.isBlank c then blanks n (f.skip cs) else c :: cs

/-- The bounds of a repetition, up to the closing brace. -/
def bounds (f : Flags) (cs : List Char) : Read (Nat × Option Nat) :=
  match count f (f.skip cs) with
  | none => none
  | some (min, '\x7d' :: rest) => some ((min, some min), rest)
  | some (min, ',' :: rest) =>
    match f.skip rest with
    | '\x7d' :: rest => some ((min, none), rest)
    | rest =>
      match count f rest with
      | some (max, '\x7d' :: rest) => if min ≤ max then some ((min, some max), rest) else none
      | _ => none
  | some _ => none

/-- What is left after the mark that asks for few repetitions; that changes no answer. -/
def dropLazy (cs : List Char) : List Char :=
  match cs with
  | '?' :: rest => rest
  | cs => cs

/-! ## Beginnings of groups -/

/-- What follows an opening parenthesis: the switches put for what comes, or a group with its
own switches and perhaps a name, whose place is kept unless it only holds parts together. -/
inductive GroupStart where
  | switches (f : Flags)
  | group (f : Flags) (keeps : Bool) (name : Option (List Char))

/-- Whether a character can stand in the name of a group. -/
def isNameChar (first : Bool) (c : Char) : Bool :=
  c = '_' || Unicode.alphabetic.set.has c
    || (!first && (c = '.' || c = '[' || c = ']'
        || (Unicode.ofCategories [Unicode.decimalNumber, Unicode.letterNumber,
              Unicode.otherNumber]).has c))

/-- The name of a group, up to the closing angle bracket. -/
def groupName (cs : List Char) : Read (List Char) :=
  match cs.takeWhile (· ≠ '>'), cs.dropWhile (· ≠ '>') with
  | first :: more, '>' :: rest =>
    if isNameChar true first && more.all (isNameChar false) then some (first :: more, rest)
    else none
  | _, _ => none

/-- The beginning of a group after its parenthesis. -/
def groupStart (f : Flags) (cs : List Char) : Read GroupStart :=
  match f.skip cs with
  | '?' :: '=' :: _ => none
  | '?' :: '!' :: _ => none
  | '?' :: '<' :: '=' :: _ => none
  | '?' :: '<' :: '!' :: _ => none
  | '?' :: 'P' :: '<' :: rest =>
    (groupName rest).map fun (name, rest) => (.group f true (some name), rest)
  | '?' :: '<' :: rest => (groupName rest).map fun (name, rest) => (.group f true (some name), rest)
  | '?' :: rest =>
    let letters := rest.takeWhile fun c => c ≠ ':' && c ≠ ')'
    match f.read? true [] letters, rest.dropWhile (fun c => c ≠ ':' && c ≠ ')') with
    | some g, ':' :: rest => some (.group g false none, rest)
    | some g, ')' :: rest => if letters = [] then none else some (.switches g, rest)
    | _, _ => none
  | rest => some (.group f true none, rest)

/-! ## Parts -/

/-- The set of all characters that a dot stands for. -/
def dotSet? (f : Flags) : Option CharSet :=
  if !f.unicode then none
  else if f.dotAll then some CharSet.full
  else if f.anyLineEnd then some (CharSet.negate [(0x0a, 0x0a), (0x0d, 0x0d)])
  else some (CharSet.negate [(0x0a, 0x0a)])

/-- The assertion of a caret. -/
def caret (f : Flags) : Assertion :=
  if !f.multiLine then .textStart else if f.anyLineEnd then .anyLineStart else .lineStart

/-- The assertion of a dollar sign. -/
def dollar (f : Flags) : Assertion :=
  if !f.multiLine then .textEnd else if f.anyLineEnd then .anyLineEnd else .lineEnd

/-- The pattern of an atom. -/
def ofAtom? (f : Flags) (a : Atom) : Option Pattern :=
  match a with
  | .literal c asByte => (literal? f c asByte).map fun c => .chars (f.fold [(c.toNat, c.toNat)])
  | .set s => some (.chars s)
  | .place a => some (.assertion a)

/-- A part that is neither a group nor a repetition. -/
def part (f : Flags) (cs : List Char) : Read Piece :=
  match cs with
  | [] => none
  | '[' :: rest =>
    (bracketed f rest).map fun ((s, height), rest) => (⟨.chars s, height, true⟩, rest)
  | '.' :: rest => (dotSet? f).map fun s => (⟨.chars s, 0, true⟩, rest)
  | '^' :: rest => some (⟨.assertion (caret f), 0, true⟩, rest)
  | '$' :: rest => some (⟨.assertion (dollar f), 0, true⟩, rest)
  | '\\' :: rest =>
    match escape f rest with
    | some (a, rest) => (ofAtom? f a).map fun p => (⟨p, 0, true⟩, rest)
    | none => none
  | c :: rest => (ofAtom? f (.literal c false)).map fun p => (⟨p, 0, true⟩, rest)

/-! ## Whole patterns -/

/-- The state of reading: the switches, the names of groups so far, the group at hand and those
around it, innermost first. -/
structure Progress where
  flags : Flags := {}
  names : List (List Char) := []
  group : Group := {}
  around : List Group := []

/-- The state after the beginning of a group. -/
def Progress.start? (s : Progress) : GroupStart → Option Progress
  | .switches f => some { s with flags := f, group := s.group.push ⟨.empty, 0, false⟩ }
  | .group f keeps name =>
    let inner : Progress :=
      { flags := f, names := name.toList ++ s.names, group := { after := s.flags, keeps },
        around := s.group :: s.around }
    match name with
    | some n => if s.names.contains n then none else some inner
    | none => some inner

/-- The state after the end of a group. -/
def Progress.finish? (s : Progress) : Option Progress :=
  match s.around with
  | [] => none
  | g :: around =>
    let p := s.group.whole
    let pattern := if s.group.keeps then .group p.pattern else p.pattern
    some { s with flags := s.group.after, group := g.push ⟨pattern, p.height + 1, true⟩,
                  around := around }

/-- The state after the last piece is repeated. -/
def Progress.repeat? (s : Progress) (min : Nat) (max : Option Nat) : Option Progress :=
  (s.group.repeatLast? min max).map fun g => { s with group := g }

/-- Reads to the end of a pattern. -/
def body : Nat → Progress → List Char → Option Progress
  | 0, _, _ => none
  | n + 1, s, cs =>
    match s.flags.skip cs with
    | [] => some s
    | '(' :: rest =>
      match groupStart s.flags rest with
      | some (start, rest) =>
        match s.start? start with
        | some s => body n s rest
        | none => none
      | none => none
    | ')' :: rest =>
      match s.finish? with
      | some s => body n s rest
      | none => none
    | '|' :: rest => body n { s with group := s.group.nextBranch } rest
    | '?' :: rest => (s.repeat? 0 (some 1)).bind fun s => body n s (dropLazy rest)
    | '*' :: rest => (s.repeat? 0 none).bind fun s => body n s (dropLazy rest)
    | '+' :: rest => (s.repeat? 1 none).bind fun s => body n s (dropLazy rest)
    | '\x7b' :: rest =>
      match bounds s.flags rest with
      | some ((min, max), rest) =>
        (s.repeat? min max).bind fun t => body n t (dropLazy (s.flags.skip rest))
      | none => none
    | cs =>
      match part s.flags cs with
      | some (p, rest) => body n { s with group := s.group.push p } rest
      | none => none

/-- The depth to which the parts of a pattern may nest. -/
def depthLimit : Nat := 250

/-- The wording for a text that is not written like a pattern. -/
def malformed : String := "regex parse error"

/-- The wording for a pattern that takes too much room. -/
def oversized : String :=
  "Compiled regex exceeds size limit of " ++ toString weightLimit ++ " bytes."

/-- The pattern of a text, or why there is none that can be searched for.  Where a text is malformed
and how is not told. -/
def ofText (text : String) : Except String Pattern :=
  let cs := text.toList
  match body (cs.length + 1) {} cs with
  | some s =>
    let whole := s.group.whole
    if s.around.isEmpty && whole.height ≤ depthLimit then
      if whole.pattern.weight ≤ weightLimit then .ok whole.pattern else .error oversized
    else .error malformed
  | none => .error malformed

instance : PatternReader := ⟨ofText⟩

end Pattern
end FormLogic
