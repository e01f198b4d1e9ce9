/-
  FormLogic.Unicode.Table

  Tables of ranges with names in loose spelling: lower case, without blanks,
  underscores and hyphens.
-/

import FormLogic.Text.CharSet

namespace FormLogic
namespace Unicode

/-- A set of characters written as lines of ranges, and the names it goes by. -/
structure Table where
  names : List String
  lines : List String

namespace Table

/-- The characters of a table. -/
def set (t : Table) : CharSet := CharSet.ofLines t.lines

/-- The set that goes by a name. -/
def find? (tables : List Table) (name : String) : Option CharSet :=
  (tables.find? fun t => t.names.contains name).map set

end Table

/-! ## Loose spelling -/

/-- A name without the characters that loose spelling ignores, in lower case. -/
def looseChars (cs : List Char) : List Char :=
  (cs.filter fun c => c ≠ ' ' && c ≠ '_' && c ≠ '-' && c.toNat < 0x80).map Char.toLower

/-- The loose spelling of a name; a leading "is" does not count unless only "c" is left. -/
def looseName (name : String) : String :=
  match name.toList with
  | a :: b :: rest =>
    if (a = 'i' || a = 'I') && (b = 's' || b = 'S') then
      let left := looseChars rest
      if left = ['c'] then "isc" else String.ofList left
    else String.ofList (looseChars (a :: b :: rest))
  | cs => String.ofList (looseChars cs)

end Unicode
end FormLogic
