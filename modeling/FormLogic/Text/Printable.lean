/-
  FormLogic.Text.Printable

  The characters that a quoted text shows by their code point: controls,
  unassigned and private ones, separators other than the blank, and those
  that only extend the character before them.
-/

import FormLogic.Unicode.Property

namespace FormLogic
namespace Text

/-- The characters that are shown as themselves, but for the blank. -/
def visibleChars : CharSet :=
  CharSet.diff Unicode.graphemeBase.set Unicode.spaceSeparator.set

/-- Whether a character is shown as itself. -/
def isPrintable (c : Char) : Bool := c = ' ' || visibleChars.has c

end Text
end FormLogic
