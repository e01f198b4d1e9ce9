/-
  FormLogic.Pattern.Flags

  The switches that say how the parts of a pattern are read, and the blanks
  and remarks that one of them lets a pattern have.
-/

import FormLogic.Pattern.Basic
import FormLogic.Unicode.CaseOrbit
import FormLogic.Text.Blank

namespace FormLogic
namespace Pattern

/-- The switches in force at a place of a pattern. -/
structure Flags where
  ignoreCase : Bool := false
  multiLine : Bool := false
  dotAll : Bool := false
  unicode : Bool := true
  anyLineEnd : Bool := false
  ignoreBlanks : Bool := false
deriving DecidableEq, Repr

namespace Flags

/-- The flags with the one of a letter on or off; some letters change nothing that matters. -/
def switch? (f : Flags) (on : Bool) (letter : Char) : Option Flags :=
  match letter with
  | 'i' => some { f with ignoreCase := on }
  | 'm' => some { f with multiLine := on }
  | 's' => some { f with dotAll := on }
  | 'U' => some f
  | 'u' => some { f with unicode := on }
  | 'R' => some { f with anyLineEnd := on }
  | 'x' => some { f with ignoreBlanks := on }
  | _ => none

/-- The flags after a list of letters, a dash before those to put out; no letter and no dash
may stand twice, and a dash not at the end. -/
def read? (f : Flags) (on : Bool) (seen : List Char) : List Char → Option Flags
  | [] => if seen.head? = some '-' then none else some f
  | c :: cs =>
    if seen.contains c then none
    else if c = '-' then read? f false (c :: seen) cs
    else
      match f.switch? on c with
      | some f => read? f on (c :: seen) cs
      | none => none

/-- The set of characters that a set stands for, when case may not count. -/
def fold (f : Flags) (s : CharSet) : CharSet :=
  if f.ignoreCase then (if f.unicode then Unicode.foldCase s else Unicode.foldAscii s) else s

/-- The complement of a set; only whole characters can be left over. -/
def negate? (f : Flags) (negated : Bool) (s : CharSet) : Option CharSet :=
  if !negated then some s
  else if f.unicode then some (CharSet.negate s)
  else none

end Flags

/-! ## Blanks and remarks -/

/-- What is left after blanks and remarks; a remark ends with its line. -/
def dropBlanks (inRemark : Bool) : List Char → List Char
  | [] => []
  | c :: cs =>
    if inRemark then dropBlanks (c ≠ '\n') cs
    else if Text.isBlank c then dropBlanks false cs
    else if c = '#' then dropBlanks true cs
    else c :: cs

/-- What is left after blanks and remarks, where they do not count. -/
def Flags.skip (f : Flags) (cs : List Char) : List Char :=
  if f.ignoreBlanks then dropBlanks false cs else cs

end Pattern
end FormLogic
