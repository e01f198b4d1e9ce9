/-
  FormLogic.Json.Basic

  JSON documents.  A number is an integer of at most 64 bits or a binary
  floating-point number, and the two are different documents even where they
  denote one value (`1` and `1.0`).  The members of an object stand in
  ascending order of their names.

  `agree` compares two documents member by member, for a chosen comparison
  of numbers; `same` is the identity of documents.
-/

import FormLogic.Dict
import FormLogic.Double.Text

namespace FormLogic

/-- A JSON number. -/
inductive Number where
  | int (n : Int)
  | double (d : Double)
deriving DecidableEq

namespace Number

/-- The number as a floating-point number. -/
def toDouble : Number → Double
  | .int n => Double.ofInt n
  | .double d => d

/-- The text of a number. -/
def text : Number → String
  | .int n => toString n
  | .double d => d.text

/-- Identity of numbers: an integer never equals a floating-point number. -/
def same : Number → Number → Bool
  | .int a, .int b => a == b
  | .double a, .double b => a.same b
  | _, _ => false

/-- Whether a document can hold the integer: it fits 64 bits, signed or unsigned. -/
def InRange (n : Int) : Prop := -(Nat.pow 2 63 : Nat) ≤ n ∧ n < (Nat.pow 2 64 : Nat)

end Number

/-- A JSON document. -/
inductive Json where
  | null
  | bool (b : Bool)
  | number (n : Number)
  | string (s : String)
  | array (items : List Json)
  | object (members : List (String × Json))

namespace Json

instance : Inhabited Json := ⟨.null⟩

/-! ## Views -/

/-- The entries of an array. -/
def items? : Json → Option (List Json)
  | .array items => some items
  | _ => none

/-- The members of an object. -/
def members? : Json → Option (Dict Json)
  | .object members => some members
  | _ => none

/-- The text of a string. -/
def text? : Json → Option String
  | .string s => some s
  | _ => none

def isArray : Json → Bool
  | .array _ => true
  | _ => false

def isObject : Json → Bool
  | .object _ => true
  | _ => false

def isString : Json → Bool
  | .string _ => true
  | _ => false

def isBool : Json → Bool
  | .bool _ => true
  | _ => false

/-- The object of a list of members given in any order. -/
def ofMembers (members : List (String × Json)) : Json := .object (Dict.ofList members)

/-! ## Comparison -/

mutual

/-- Whether two documents agree, numbers being compared by `eq`. -/
def agree (eq : Number → Number → Bool) : Json → Json → Bool
  | .null, .null => true
  | .bool a, .bool b => a == b
  | .number a, .number b => eq a b
  | .string a, .string b => a == b
  | .array xs, .array ys => agreeAll eq xs ys
  | .object ms, .object ns => agreeMembers eq ms ns
  | _, _ => false

/-- Whether two lists of documents agree entry by entry. -/
def agreeAll (eq : Number → Number → Bool) : List Json → List Json → Bool
  | [], [] => true
  | x :: xs, y :: ys => agree eq x y && agreeAll eq xs ys
  | _, _ => false

/-- Whether two objects have the same names with agreeing values. -/
def agreeMembers (eq : Number → Number → Bool) :
    List (String × Json) → List (String × Json) → Bool
  | [], [] => true
  | (k, x) :: xs, (l, y) :: ys => k == l && agree eq x y && agreeMembers eq xs ys
  | _, _ => false

end

/-- Identity of documents. -/
def same (a b : Json) : Bool := agree Number.same a b

/-- Whether two optional documents are the same or both missing. -/
def sameOption : Option Json → Option Json → Bool
  | some a, some b => same a b
  | none, none => true
  | _, _ => false

end Json
end FormLogic
