/-
  FormLogic.Json.Printer

  JSON documents as text: compact, or with one member a line and two blanks
  of indentation per level.
-/

import FormLogic.Json.Basic

namespace FormLogic
namespace Json

/-! ## Strings -/

/-- The lower-case hexadecimal digit of a number below sixteen. -/
def hexDigit (n : Nat) : Char := Nat.digitChar n

/-- A character inside a quoted string: quotes, backslashes and control characters are escaped. -/
def escapeChar (c : Char) : List Char :=
  if c = '"' then ['\\', '"']
  else if c = '\\' then ['\\', '\\']
  else if c = '\n' then ['\\', 'n']
  else if c = '\r' then ['\\', 'r']
  else if c = '\t' then ['\\', 't']
  else if c = '\x08' then ['\\', 'b']
  else if c = '\x0c' then ['\\', 'f']
  else if c.toNat < 0x20 then ['\\', 'u', '0', '0', hexDigit (c.toNat / 16), hexDigit (c.toNat % 16)]
  else [c]

/-- A quoted string. -/
def quote (s : String) : String :=
  "\"" ++ String.ofList (s.toList.flatMap escapeChar) ++ "\""

/-! ## Compact text -/

mutual

/-- The text of a document without any blanks. -/
def compact : Json → String
  | .null => "null"
  | .bool true => "true"
  | .bool false => "false"
  | .number n => n.text
  | .string s => quote s
  | .array [] => "[]"
  | .array (x :: xs) => "[" ++ compact x ++ compactRest xs ++ "]"
  | .object [] => "\x7b\x7d"
  | .object ((k, v) :: ms) =>
    "\x7b" ++ quote k ++ ":" ++ compact v ++ compactMembersRest ms ++ "\x7d"

def compactRest : List Json → String
  | [] => ""
  | x :: xs => "," ++ compact x ++ compactRest xs

def compactMembersRest : List (String × Json) → String
  | [] => ""
  | (k, v) :: ms => "," ++ quote k ++ ":" ++ compact v ++ compactMembersRest ms

end

/-! ## Indented text -/

/-- A line break followed by the indentation of a level. -/
def newline (level : Nat) : String :=
  "\n" ++ String.ofList (List.replicate (2 * level) ' ')

mutual

/-- The text of a document with every entry and member on a line of its own. -/
def pretty (level : Nat) : Json → String
  | .null => "null"
  | .bool true => "true"
  | .bool false => "false"
  | .number n => n.text
  | .string s => quote s
  | .array [] => "[]"
  | .array (x :: xs) =>
    "[" ++ newline (level + 1) ++ pretty (level + 1) x ++ prettyRest (level + 1) xs
      ++ newline level ++ "]"
  | .object [] => "\x7b\x7d"
  | .object ((k, v) :: ms) =>
    "\x7b" ++ newline (level + 1) ++ quote k ++ ": " ++ pretty (level + 1) v
      ++ prettyMembersRest (level + 1) ms ++ newline level ++ "\x7d"

def prettyRest (level : Nat) : List Json → String
  | [] => ""
  | x :: xs => "," ++ newline level ++ pretty level x ++ prettyRest level xs

def prettyMembersRest (level : Nat) : List (String × Json) → String
  | [] => ""
  | (k, v) :: ms =>
    "," ++ newline level ++ quote k ++ ": " ++ pretty level v ++ prettyMembersRest level ms

end

end Json
end FormLogic
