/-
  FormLogic.Text.Blank

  White space in the sense of the Unicode property, and texts without it at
  their ends.
-/

namespace FormLogic
namespace Text

/-- Whether a character is white space. -/
def isBlank (c : Char) : Bool :=
  let n := c.toNat
  (0x09 ≤ n && n ≤ 0x0d) || n == 0x20 || n == 0x85 || n == 0xa0 || n == 0x1680
    || (0x2000 ≤ n && n ≤ 0x200a) || n == 0x2028 || n == 0x2029 || n == 0x202f
    || n == 0x205f || n == 0x3000

/-- The characters without white space at either end. -/
def trimChars (cs : List Char) : List Char :=
  ((cs.dropWhile isBlank).reverse.dropWhile isBlank).reverse

/-- A text without white space at either end. -/
def trim (s : String) : String := String.ofList (trimChars s.toList)

/-- Whether one list of characters occurs in another without gaps. -/
def occursIn (needle : List Char) : List Char → Bool
  | [] => needle.isEmpty
  | c :: cs => needle.isPrefixOf (c :: cs) || occursIn needle cs

/-- Whether one text occurs in another. -/
def contains (text needle : String) : Bool := occursIn needle.toList text.toList

end Text
end FormLogic
