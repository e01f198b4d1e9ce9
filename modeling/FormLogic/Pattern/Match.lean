/-
  FormLogic.Pattern.Match

  Whether a text has a part that matches a pattern.  The text is read once
  from left to right, with the patterns of which one has to match what is
  left to read.
-/

import FormLogic.Pattern.Basic

namespace FormLogic
namespace Pattern

/-- Whether a pattern matches the empty text at a place. -/
def matchesEmpty (place : Place) : Pattern → Bool
  | .empty => true
  | .chars _ => false
  | .assertion a => a.holds place
  | .seq a b => a.matchesEmpty place && b.matchesEmpty place
  | .alt a b => a.matchesEmpty place || b.matchesEmpty place
  | .group p => p.matchesEmpty place
  | .repeated p min _ => min == 0 || p.matchesEmpty place

/-- A pattern followed by another. -/
def followedBy (p q : Pattern) : Pattern :=
  match p with
  | .empty => q
  | p => .seq p q

/-- The patterns of which one has to match what follows a character, for the pattern to match
from before the character on. -/
def afterChar (before : Option Char) (c : Char) : Pattern → List Pattern
  | .empty => []
  | .chars set => if set.has c then [.empty] else []
  | .assertion _ => []
  | .seq a b =>
    (a.afterChar before c).map (·.followedBy b)
      ++ (if a.matchesEmpty ⟨before, some c⟩ then b.afterChar before c else [])
  | .alt a b => a.afterChar before c ++ b.afterChar before c
  | .group p => p.afterChar before c
  | .repeated p min max =>
    if max = some 0 then []
    else
      let min := if p.matchesEmpty ⟨before, some c⟩ then 0 else min - 1
      (p.afterChar before c).map (·.followedBy (.repeated p min (max.map (· - 1))))

/-- Whether one of the patterns at hand matches a beginning of the text, or the pattern sought
matches further on. -/
def search (p : Pattern) (before : Option Char) (states : List Pattern) : List Char → Bool
  | [] => (p :: states).any (·.matchesEmpty ⟨before, none⟩)
  | c :: cs =>
    (p :: states).any (·.matchesEmpty ⟨before, some c⟩)
      || search p (some c) ((p :: states).flatMap (·.afterChar before c)).eraseDups cs

/-- Whether a text has a part that matches the pattern. -/
def isMatch (p : Pattern) (text : String) : Bool := p.search none [] text.toList

end Pattern
end FormLogic
