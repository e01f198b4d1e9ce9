/-
  FormLogic.Pattern.Alphabet

  The classes of characters that patterns name by a letter, by a word in
  brackets or by a property.
-/

import FormLogic.Unicode.Age
import FormLogic.Unicode.Break
import FormLogic.Unicode.ScriptExtension

namespace FormLogic
namespace Pattern

/-! ## Classes named by a letter -/

/-- A class named by a letter. -/
inductive LetterClass where
  | digit
  | space
  | word
deriving DecidableEq, Repr

/-- White space. -/
def spaceChars : CharSet :=
  [(0x09, 0x0d), (0x20, 0x20), (0x85, 0x85), (0xa0, 0xa0), (0x1680, 0x1680), (0x2000, 0x200a),
    (0x2028, 0x2029), (0x202f, 0x202f), (0x205f, 0x205f), (0x3000, 0x3000)]

/-- The characters of words: letters, marks, digits, connectors and joiners. -/
def wordChars : CharSet :=
  CharSet.union Unicode.alphabetic.set
    (CharSet.union
      (Unicode.ofCategories [Unicode.nonspacingMark, Unicode.spacingMark, Unicode.enclosingMark,
        Unicode.decimalNumber, Unicode.connectorPunctuation])
      [(0x200c, 0x200d)])

/-- The characters of words below 128. -/
def asciiWordChars : CharSet := [(0x30, 0x39), (0x41, 0x5a), (0x5f, 0x5f), (0x61, 0x7a)]

namespace LetterClass

/-- The characters of a class, all of them or those below 128. -/
def set (unicode : Bool) : LetterClass → CharSet
  | digit => if unicode then Unicode.decimalNumber.set else [(0x30, 0x39)]
  | space => if unicode then spaceChars else [(0x09, 0x0d), (0x20, 0x20)]
  | word => if unicode then wordChars else asciiWordChars

end LetterClass

/-- Whether a character belongs to words. -/
def isWord (unicode : Bool) (c : Char) : Bool := (LetterClass.word.set unicode).has c

/-! ## Classes named by a word in brackets -/

/-- The characters of a class below 128, by its name. -/
def bracketClass? (name : String) : Option CharSet :=
  match name with
  | "alnum" => some [(0x30, 0x39), (0x41, 0x5a), (0x61, 0x7a)]
  | "alpha" => some [(0x41, 0x5a), (0x61, 0x7a)]
  | "ascii" => some [(0, 0x7f)]
  | "blank" => some [(0x09, 0x09), (0x20, 0x20)]
  | "cntrl" => some [(0, 0x1f), (0x7f, 0x7f)]
  | "digit" => some [(0x30, 0x39)]
  | "graph" => some [(0x21, 0x7e)]
  | "lower" => some [(0x61, 0x7a)]
  | "print" => some [(0x20, 0x7e)]
  | "punct" => some [(0x21, 0x2f), (0x3a, 0x40), (0x5b, 0x60), (0x7b, 0x7e)]
  | "space" => some [(0x09, 0x0d), (0x20, 0x20)]
  | "upper" => some [(0x41, 0x5a)]
  | "word" => some asciiWordChars
  | "xdigit" => some [(0x30, 0x39), (0x41, 0x46), (0x61, 0x66)]
  | _ => none

/-! ## Classes named by a property -/

/-- A name with a value, divided at the first sign between them. -/
def divideName (name : List Char) : Option (List Char × List Char) :=
  match splitAtUnequal name with
  | some parts => some parts
  | none =>
    match splitAtChar ':' name with
    | some parts => some parts
    | none => splitAtChar '=' name
where
  /-- The parts around the first character of a kind. -/
  splitAtChar (d : Char) : List Char → Option (List Char × List Char)
    | [] => none
    | c :: cs =>
      if c = d then some ([], cs) else (splitAtChar d cs).map fun (a, b) => (c :: a, b)
  /-- The parts around the first sign that stands for "not equal". -/
  splitAtUnequal : List Char → Option (List Char × List Char)
    | '!' :: '=' :: cs => some ([], cs)
    | [] => none
    | c :: cs => (splitAtUnequal cs).map fun (a, b) => (c :: a, b)

/-- The characters for which a property has a value, both in loose spelling. -/
def valueClass? (property value : String) : Option CharSet :=
  if ["gc", "generalcategory"].contains property then Unicode.category? value
  else if ["sc", "script"].contains property then Unicode.script? value
  else if ["scx", "scriptextensions"].contains property then Unicode.scriptExtension? value
  else if property = "age" then Unicode.age? value
  else if ["gcb", "graphemeclusterbreak"].contains property then Unicode.graphemeBreak? value
  else if ["wb", "wordbreak"].contains property then Unicode.wordBreak? value
  else if ["sb", "sentencebreak"].contains property then Unicode.sentenceBreak? value
  else none

/-- The characters of a property, a category or a script, or with a value of a property. -/
def propertyClass? (name : List Char) : Option CharSet :=
  match divideName name with
  | some (property, value) =>
    valueClass? (Unicode.looseName (String.ofList property))
      (Unicode.looseName (String.ofList value))
  | none =>
    let loose := Unicode.looseName (String.ofList name)
    match Unicode.property? loose with
    | some s => some s
    | none =>
      match Unicode.category? loose with
      | some s => some s
      | none => Unicode.script? loose

end Pattern
end FormLogic
