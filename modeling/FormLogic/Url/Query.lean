/-
  FormLogic.Url.Query

  Queries as lists of names with values: written with plus signs for blanks
  and bytes for most other signs, and read back.

  Specification, section 4.8: what is typed goes into the query of a request.
-/

import FormLogic.Url.Basic
import FormLogic.Text.Split

namespace FormLogic
namespace Url

/-! ## Writing -/

/-- Whether a character stands for itself in a query. -/
def isPlainInQuery (c : Char) : Bool :=
  (c.toNat < 0x80 && c.isAlphanum) || ['*', '-', '.', '_'].contains c

/-- A character of a name or value in a query. -/
def queryChar (c : Char) : List Char :=
  if isPlainInQuery c then [c]
  else if c = ' ' then ['+']
  else (String.utf8EncodeChar c).flatMap escapeByte

/-- A name or value in a query. -/
def queryText (cs : List Char) : List Char := cs.flatMap queryChar

/-- A name with its value in a query. -/
def pairText (name value : String) : String :=
  String.ofList (queryText name.toList ++ '=' :: queryText value.toList)

/-- The address with one more name and value in its query. -/
def appendPair (u : Url) (name value : String) : Url :=
  let before :=
    match u.query with
    | none => ""
    | some q => if q = "" then "" else q ++ "&"
  { u with query := some (before ++ pairText name value) }

/-! ## Reading -/

/-- The characters that a name or value of a query stands for. -/
def readQueryText (cs : List Char) : List Char :=
  Text.readUtf8 (unescape (cs.map fun c => if c = '+' then ' ' else c))

/-- A name with its value: parted at the first equals sign. -/
def readPair (cs : List Char) : String × String :=
  (String.ofList (readQueryText (cs.takeWhile (· ≠ '='))),
    String.ofList (readQueryText ((cs.dropWhile (· ≠ '=')).drop 1)))

/-- The names and values of a query; empty parts do not count. -/
def readPairs (query : String) : List (String × String) :=
  ((Text.splitOn '&' query.toList).filter fun part => part ≠ []).map readPair

/-- The names and values of the query of an address. -/
def pairs (u : Url) : List (String × String) := (u.query.map readPairs).getD []

end Url
end FormLogic
