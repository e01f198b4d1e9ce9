/-
  FormLogic.Pattern.Basic

  Patterns for texts: sets of characters, assertions about the place between
  two characters, sequences, alternatives, groups and counted repetitions.

  How a pattern is written is a matter of its own.  Whoever needs the pattern
  of a text asks for a reader of patterns (`PatternReader`), and what is shown
  of forms holds whatever the reader accepts.

  Specification, section 4.5: the rules `pattern` and `email`.
-/

import FormLogic.Pattern.Alphabet

namespace FormLogic

namespace Pattern

/-! ## Assertions -/

/-- A place in a text: the characters before and after it, if there are any. -/
structure Place where
  before : Option Char
  after : Option Char
deriving DecidableEq, Repr

/-- Where a place stands in respect of words. -/
inductive WordEdge where
  | boundary
  | noBoundary
  | start
  | finish
  | startHalf
  | finishHalf
deriving DecidableEq, Repr

/-- What can be demanded of a place. -/
inductive Assertion where
  | textStart
  | textEnd
  | lineStart
  | lineEnd
  | anyLineStart
  | anyLineEnd
  | word (edge : WordEdge) (unicode : Bool)
deriving DecidableEq, Repr

namespace WordEdge

/-- Whether a place has the edge, given whether words reach it from before and from after. -/
def holds : WordEdge → Bool → Bool → Bool
  | boundary, b, a => b != a
  | noBoundary, b, a => b == a
  | start, b, a => !b && a
  | finish, b, a => b && !a
  | startHalf, b, _ => !b
  | finishHalf, _, a => !a

end WordEdge

/-- Whether an assertion holds at a place. -/
def Assertion.holds (p : Place) : Assertion → Bool
  | textStart => p.before.isNone
  | textEnd => p.after.isNone
  | lineStart => p.before.all fun c => c = '\n'
  | lineEnd => p.after.all fun c => c = '\n'
  | anyLineStart =>
    p.before.all fun c => c = '\n' || (c = '\r' && !p.after.any fun d => d = '\n')
  | anyLineEnd =>
    p.after.all fun c => c = '\r' || (c = '\n' && !p.before.any fun d => d = '\r')
  | word edge unicode => edge.holds (p.before.any (isWord unicode)) (p.after.any (isWord unicode))

end Pattern

/-! ## Patterns -/

/-- A pattern.  A group matches what the pattern in it matches, and has the place of the match kept
by a machine that searches for it. -/
inductive Pattern where
  | empty
  | chars (set : CharSet)
  | assertion (a : Pattern.Assertion)
  | seq (a b : Pattern)
  | alt (a b : Pattern)
  | group (p : Pattern)
  | repeated (p : Pattern) (min : Nat) (max : Option Nat)
deriving DecidableEq, Repr

/-- A reader of patterns: the pattern that a text is written for, or why there is none. -/
class PatternReader where
  read : String → Except String Pattern

end FormLogic
