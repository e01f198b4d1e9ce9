/-
  FormLogic.Template.Layout

  White space around tags.  A tag can be marked to drop all white space on
  either side of it.  A tag that opens, divides or closes a block, or a
  comment, that stands alone on its line takes the line with it: the blanks
  before it and the blanks and line break after it.
-/

import FormLogic.Template.Tag
import FormLogic.Text.Blank

namespace FormLogic
namespace Template

/-- The blanks that can stand before and after a tag on its line. -/
def isLineBlank (c : Char) : Bool := c = ' ' || c = '\t'

/-- The text without its blanks at the start. -/
def dropLineBlanks (cs : List Char) : List Char := cs.dropWhile isLineBlank

/-- The text without its blanks at the end. -/
def dropEndBlanks (cs : List Char) : List Char := (cs.reverse.dropWhile isLineBlank).reverse

/-- The text without a line break at its start. -/
def dropLineBreak : List Char → List Char
  | '\r' :: '\n' :: cs => cs
  | '\n' :: cs => cs
  | cs => cs

/-- The text without white space at its start. -/
def dropSpaceBefore (cs : List Char) : List Char := cs.dropWhile Text.isBlank

/-- The text without white space at its end. -/
def dropSpaceAfter (cs : List Char) : List Char := (cs.reverse.dropWhile Text.isBlank).reverse

/-- What stands before a tag: nothing, a text that is first or not, or another tag. -/
inductive Before where
  | nothing
  | text (chars : List Char) (first : Bool)
  | tag

/-- Whether a line starts where the tag stands, blanks aside. -/
def Before.atLineStart : Before → Bool
  | .nothing => true
  | .tag => false
  | .text cs first =>
    match (dropEndBlanks cs).getLast? with
    | none => first
    | some c => c = '\n' || c = '\r'

/-- Whether a line ends behind the tag, blanks aside. -/
def atLineEnd : List Token → Bool
  | [] => true
  | .text cs :: _ =>
    match dropLineBlanks cs with
    | [] => false
    | c :: _ => c = '\n' || c = '\r'
  | .tag _ _ _ :: _ => false

/-- Whether the tag at the head of the list stands alone on its line. -/
def standsAlone (before : Before) (t : Tag) (rest : List Token) : Bool :=
  t.ownsLine && atLineEnd rest && before.atLineStart

/-- The marks that a tag leaves for the text behind it. -/
structure Marks where
  dropSpace : Bool := false
  dropLine : Bool := false

/-- The start of a text under the marks left by the tag before it. -/
def trimFront (m : Marks) (cs : List Char) : List Char :=
  if m.dropSpace then dropSpaceBefore cs
  else if m.dropLine then dropLineBreak (dropLineBlanks cs)
  else cs

/-- The marks left over behind a text.  A text of blanks that is dropped whole leaves the line mark.
-/
def Marks.afterText (m : Marks) (cs : List Char) : Marks :=
  if m.dropSpace ∧ cs.all isSpace then m else { m with dropLine := false }

/-- The marks that a tag leaves. -/
def Marks.afterTag (m : Marks) (dropAfter alone : Bool) (t : Tag) : Marks :=
  { dropSpace := match t with
      | .comment => m.dropSpace
      | _ => dropAfter
    dropLine := if t.ownsLine then alone else m.dropLine }

/-- The end of a text in front of the tokens that follow it. -/
def trimBack (before : Before) (cs : List Char) : List Token → List Char
  | .tag dropBefore _ t :: rest =>
    let cs := if dropBefore then dropSpaceAfter cs else cs
    if standsAlone before t rest && !t.keepsIndent then dropEndBlanks cs else cs
  | _ => cs

/-- A tag with the indent that the blanks before it give to what it includes. -/
def withIndent (before : Before) (dropBefore : Bool) : Tag → Tag
  | .inclusion i =>
    match before, dropBefore with
    | .text cs _, false => .inclusion { i with indent := (cs.reverse.takeWhile isLineBlank).reverse }
    | _, _ => .inclusion i
  | t => t

/-- Applies the rules to all texts, given what stands before the list. -/
def layoutFrom (before : Before) (m : Marks) : List Token → List Token
  | [] => []
  | .text cs :: rest =>
    let first := match before with
      | .nothing => true
      | _ => false
    let here := Before.text cs first
    .text (trimBack here (trimFront m cs) rest) :: layoutFrom here (m.afterText cs) rest
  | .tag dropBefore dropAfter t :: rest =>
    .tag dropBefore dropAfter (withIndent before dropBefore t)
      :: layoutFrom .tag (m.afterTag dropAfter (standsAlone before t rest) t) rest

/-- The tokens of a template with the white space that its tags leave. -/
def layout (tokens : List Token) : List Token := layoutFrom .nothing {} tokens

end Template
end FormLogic
