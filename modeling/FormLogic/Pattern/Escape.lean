/-
  FormLogic.Pattern.Escape

  What a backslash in a pattern makes of the characters after it: characters
  by their code point, classes, and assertions.
-/

import FormLogic.Pattern.Flags

namespace FormLogic
namespace Pattern

/-- The smallest parts of a pattern. -/
inductive Atom where
  | literal (c : Char) (asByte : Bool)
  | set (s : CharSet)
  | place (a : Assertion)
deriving DecidableEq, Repr

/-- A part of a pattern and the characters after it. -/
abbrev Read (α : Type) := Option (α × List Char)

/-! ## Characters by their code point -/

/-- The value of a hexadecimal digit. -/
def hexDigit? (c : Char) : Option Nat :=
  if '0' ≤ c ∧ c ≤ '9' then some (c.toNat - '0'.toNat)
  else if 'a' ≤ c ∧ c ≤ 'f' then some (c.toNat - 'a'.toNat + 10)
  else if 'A' ≤ c ∧ c ≤ 'F' then some (c.toNat - 'A'.toNat + 10)
  else none

/-- The character of a code point. -/
def charOf? (n : Nat) : Option Char :=
  if n < 0xd800 ∨ (0xdfff < n ∧ n < 0x110000) then some (Char.ofNat n) else none

/-- A number of so many hexadecimal digits. -/
def fixedHex (f : Flags) : Nat → Nat → List Char → Read Nat
  | 0, value, cs => some (value, cs)
  | _ + 1, _, [] => none
  | n + 1, value, c :: cs =>
    match hexDigit? c with
    | some d => fixedHex f n (value * 16 + d) (f.skip cs)
    | none => none

/-- Hexadecimal digits up to a closing brace, the digits before them given. -/
def bracedHex (f : Flags) : Nat → Option Nat → List Char → Read Nat
  | 0, _, _ => none
  | _ + 1, _, [] => none
  | n + 1, value, c :: cs =>
    if c = '\x7d' then value.map fun v => (v, f.skip cs)
    else
      match hexDigit? c with
      | some d => bracedHex f n (some (value.getD 0 * 16 + d)) (f.skip cs)
      | none => none

/-- A character by its code point: in braces, or with so many digits. -/
def codePoint (f : Flags) (digits : Nat) (cs : List Char) : Read Atom :=
  match f.skip cs with
  | '\x7b' :: rest =>
    match bracedHex f (rest.length + 1) none (f.skip rest) with
    | some (n, rest) => (charOf? n).map fun c => (.literal c false, rest)
    | none => none
  | rest =>
    match fixedHex f digits 0 rest with
    | some (n, rest) => (charOf? n).map fun c => (.literal c (digits = 2), rest)
    | none => none

/-! ## Classes -/

/-- The characters up to a closing brace. -/
def bracedName (f : Flags) : Nat → List Char → Read (List Char)
  | 0, _ => none
  | _ + 1, [] => none
  | n + 1, c :: cs =>
    if c = '\x7d' then some ([], cs)
    else (bracedName f n (f.skip cs)).map fun (name, rest) => (c :: name, rest)

/-- A class by the name of a property, in braces or of one letter. -/
def propertyAtom (f : Flags) (negated : Bool) (cs : List Char) : Read Atom :=
  let named : Read (List Char) :=
    match f.skip cs with
    | [] => none
    | '\x7b' :: rest => bracedName f (rest.length + 1) (f.skip rest)
    | c :: rest => if c = '\\' then none else some ([c], f.skip rest)
  match named with
  | none => none
  | some (name, rest) =>
    if f.unicode then
      (propertyClass? name).map fun s =>
        let s := f.fold s
        (.set (if negated then CharSet.negate s else s), rest)
    else none

/-- A class by its letter. -/
def letterAtom (f : Flags) (kind : LetterClass) (negated : Bool) (cs : List Char) : Read Atom :=
  (f.negate? negated (kind.set f.unicode)).map fun s => (.set s, cs)

/-! ## Assertions about words -/

/-- The letters and dashes at the front, blanks between them skipped. -/
def edgeName (f : Flags) : Nat → List Char → List Char × List Char
  | 0, cs => ([], cs)
  | _ + 1, [] => ([], [])
  | n + 1, c :: cs =>
    if c.isAlpha ∨ c = '-' then
      let (name, rest) := edgeName f n (f.skip cs)
      (c :: name, rest)
    else ([], c :: cs)

/-- The edge of a name. -/
def edgeOfName? (name : String) : Option WordEdge :=
  match name with
  | "start" => some .start
  | "end" => some .finish
  | "start-half" => some .startHalf
  | "end-half" => some .finishHalf
  | _ => none

/-- A word boundary, or the edge named in the braces after it; braces that do not begin with a
letter or a dash belong to what follows. -/
def boundaryAtom (f : Flags) (cs : List Char) : Read Atom :=
  match cs with
  | '\x7b' :: rest =>
    match f.skip rest with
    | [] => none
    | c :: more =>
      if c.isAlpha ∨ c = '-' then
        match edgeName f (more.length + 1) (c :: more) with
        | (name, '\x7d' :: rest) =>
          (edgeOfName? (String.ofList name)).map fun e => (.place (.word e f.unicode), rest)
        | _ => none
      else some (.place (.word .boundary f.unicode), cs)
  | cs => some (.place (.word .boundary f.unicode), cs)

/-! ## The character after a backslash -/

/-- Whether a character stands for itself after a backslash: any below 128 but letters, digits
and angle brackets. -/
def isEscapable (c : Char) : Bool :=
  c.toNat < 0x80 && !c.isAlphanum && c ≠ '<' && c ≠ '>'

/-- A character by its letter. -/
def namedChar? (c : Char) : Option Char :=
  match c with
  | 'a' => some '\x07'
  | 'f' => some '\x0c'
  | 't' => some '\t'
  | 'n' => some '\n'
  | 'r' => some '\r'
  | 'v' => some '\x0b'
  | _ => none

/-- What a backslash makes of the characters after it. -/
def escape (f : Flags) (cs : List Char) : Read Atom :=
  match cs with
  | [] => none
  | 'x' :: cs => codePoint f 2 cs
  | 'u' :: cs => codePoint f 4 cs
  | 'U' :: cs => codePoint f 8 cs
  | 'p' :: cs => propertyAtom f false cs
  | 'P' :: cs => propertyAtom f true cs
  | 'd' :: cs => letterAtom f .digit false cs
  | 'D' :: cs => letterAtom f .digit true cs
  | 's' :: cs => letterAtom f .space false cs
  | 'S' :: cs => letterAtom f .space true cs
  | 'w' :: cs => letterAtom f .word false cs
  | 'W' :: cs => letterAtom f .word true cs
  | 'A' :: cs => some (.place .textStart, cs)
  | 'z' :: cs => some (.place .textEnd, cs)
  | 'b' :: cs => boundaryAtom f cs
  | 'B' :: cs => some (.place (.word .noBoundary f.unicode), cs)
  | '<' :: cs => some (.place (.word .start f.unicode), cs)
  | '>' :: cs => some (.place (.word .finish f.unicode), cs)
  | c :: cs =>
    if isEscapable c then some (.literal c false, cs)
    else (namedChar? c).map fun d => (.literal d false, cs)

/-- The character that a literal stands for; a byte has to be one on its own. -/
def literal? (f : Flags) (c : Char) (asByte : Bool) : Option Char :=
  if !f.unicode && asByte && c.toNat ≥ 0x80 then none else some c

end Pattern
end FormLogic
