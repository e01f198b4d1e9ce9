/-
  FormLogic.Json.Shape

  Reading typed values out of documents.  `ShapeError` says what was found
  and what was expected; the readers here take texts, flags, numbers, lists,
  maps and named choices.

  A record is read from an object, member by member in name order, or from
  the list of its fields in the order they are declared.  Reading a field
  updates a draft; a finished draft either gives the record or names the
  first field that is missing.
-/

import FormLogic.Json.Basic
import FormLogic.Text.Quoted

namespace FormLogic

/-! ## Errors -/

/-- What was found in a document. -/
inductive Found where
  | null
  | bool (b : Bool)
  | int (n : Int)
  | double (d : Double)
  | string (s : String)
  | list
  | map
  | unitVariant
deriving DecidableEq

/-- What was expected instead. -/
inductive Expected where
  | string
  | boolean
  | sequence
  | map
  | natural
  | real
  | unit
  | stringOrMap
  | singleKeyMap
  | newtypeVariant
  | record (name : String)
  | recordOfSize (name : String) (size : Nat)
  | fewerElements
deriving DecidableEq

/-- Why a document does not have the shape asked for. -/
inductive ShapeError where
  | wrongType (found : Found) (expected : Expected)
  | wrongValue (found : Found) (expected : Expected)
  | wrongLength (length : Nat) (expected : Expected)
  | missingField (name : String)
  | unknownVariant (name : String) (known : List String)
  | noVariantMatches (typeName : String)
deriving DecidableEq

/-- The wording of what was found. -/
def Found.text : Found → String
  | .null => "null"
  | .bool b => "boolean `" ++ (if b then "true" else "false") ++ "`"
  | .int n => "integer `" ++ toString n ++ "`"
  | .double d => "floating point `" ++ d.text ++ "`"
  | .string s => "string " ++ Text.quoted s
  | .list => "sequence"
  | .map => "map"
  | .unitVariant => "unit variant"

/-- The wording of what was expected. -/
def Expected.text : Expected → String
  | .string => "a string"
  | .boolean => "a boolean"
  | .sequence => "a sequence"
  | .map => "a map"
  | .natural => "usize"
  | .real => "f64"
  | .unit => "unit"
  | .stringOrMap => "string or map"
  | .singleKeyMap => "map with a single key"
  | .newtypeVariant => "newtype variant"
  | .record name => "struct " ++ name
  | .recordOfSize name size =>
    "struct " ++ name ++ " with " ++ toString size ++ (if size = 1 then " element" else " elements")
  | .fewerElements => "fewer elements in array"

/-- The wording of a list of known names. -/
def knownText : List String → String
  | [a, b] => "`" ++ a ++ "` or `" ++ b ++ "`"
  | [a] => "`" ++ a ++ "`"
  | names => "one of " ++ String.intercalate ", " (names.map fun n => "`" ++ n ++ "`")

/-- The wording of a shape error. -/
def ShapeError.message : ShapeError → String
  | .wrongType found expected => "invalid type: " ++ found.text ++ ", expected " ++ expected.text
  | .wrongValue found expected => "invalid value: " ++ found.text ++ ", expected " ++ expected.text
  | .wrongLength length expected =>
    "invalid length " ++ toString length ++ ", expected " ++ expected.text
  | .missingField name => "missing field `" ++ name ++ "`"
  | .unknownVariant name known =>
    "unknown variant `" ++ name ++ "`, expected " ++ knownText known
  | .noVariantMatches typeName => "data did not match any variant of untagged enum " ++ typeName

/-- The result of reading a value. -/
abbrev Shaped (α : Type) := Except ShapeError α

namespace Json

/-- How a document is named in an error. -/
def found : Json → Found
  | .null => .null
  | .bool b => .bool b
  | .number (.int n) => .int n
  | .number (.double d) => .double d
  | .string s => .string s
  | .array _ => .list
  | .object _ => .map

/-! ## Plain values -/

/-- A document that is not of the expected kind. -/
def mismatch {α : Type} (expected : Expected) (v : Json) : Shaped α :=
  .error (.wrongType v.found expected)

def asString : Json → Shaped String
  | .string s => .ok s
  | v => mismatch .string v

def asBool : Json → Shaped Bool
  | .bool b => .ok b
  | v => mismatch .boolean v

/-- A natural number, written as an integer. -/
def asNatural : Json → Shaped Nat
  | .number (.int n) =>
    if n < 0 then .error (.wrongValue (.int n) .natural) else .ok n.toNat
  | v => mismatch .natural v

/-- A floating-point number; an integer is rounded to one. -/
def asReal : Json → Shaped Double
  | .number n => .ok n.toDouble
  | v => mismatch .real v

def asList : Json → Shaped (List Json)
  | .array items => .ok items
  | v => mismatch .sequence v

def asMap : Json → Shaped (Dict Json)
  | .object members => .ok members
  | v => mismatch .map v

/-- A value that may be null. -/
def asOption {α : Type} (read : Json → Shaped α) : Json → Shaped (Option α)
  | .null => .ok none
  | v => (read v).map some

/-- A list of values of one shape. -/
def asListOf {α : Type} (read : Json → Shaped α) (v : Json) : Shaped (List α) := do
  (← asList v).mapM read

/-- A map from names to texts. -/
def asTexts (v : Json) : Shaped (Dict String) := do
  (← asMap v).mapM fun m => (asString m.2).map fun s => (m.1, s)

/-! ## Named choices -/

/-- The name of a choice: a text, or an object whose one member has the value null.
`known` decides about the name before the member's value is looked at. -/
def asNamed {α : Type} (known : String → Shaped α) : Json → Shaped α
  | .string s => known s
  | .object [(name, v)] => do
    let a ← known name
    match v with
    | .null => .ok a
    | v => mismatch .unit v
  | .object _ => .error (.wrongValue .map .singleKeyMap)
  | v => mismatch .stringOrMap v

/-- One of a list of choices, by name. -/
def asChoice {α : Type} (choices : List α) (name : α → String) : Json → Shaped α :=
  asNamed fun s =>
    match choices.find? fun a => name a = s with
    | some a => .ok a
    | none => .error (.unknownVariant s (choices.map name))

/-! ## Records -/

/-- How a record is read: its name, its fields in order, and what each field does to a draft. -/
structure RecordShape (δ : Type) where
  name : String
  fields : List String
  read : δ → String → Json → Shaped δ

/-- Reads the members of an object into a draft. -/
def RecordShape.readMembers {δ : Type} (shape : RecordShape δ) (draft : δ) (members : Dict Json) :
    Shaped δ :=
  members.foldlM (fun d m => shape.read d m.1 m.2) draft

/-- A record from an object or from the list of its fields.

`finish` gives the record or the first missing field.  Missing from a list
means that the list is as long as the place of that field. -/
def RecordShape.decode {δ α : Type} (shape : RecordShape δ) (draft : δ)
    (finish : δ → Except String α) : Json → Shaped α
  | .object members => do
    let d ← shape.readMembers draft members
    match finish d with
    | .ok a => .ok a
    | .error missing => .error (.missingField missing)
  | .array items => do
    let d ← shape.readMembers draft (shape.fields.zip items)
    match finish d with
    | .error missing =>
      .error (.wrongLength (shape.fields.idxOf missing)
        (.recordOfSize shape.name shape.fields.length))
    | .ok a =>
      if shape.fields.length < items.length then
        .error (.wrongLength items.length .fewerElements)
      else .ok a
  | v => mismatch (.record shape.name) v

/-! ## Writing records -/

/-- A member that is written only when there is a value. -/
def optionalMember {α : Type} (name : String) (write : α → Json) : Option α → List (String × Json)
  | none => []
  | some a => [(name, write a)]

/-- A member that is written only when the list is not empty. -/
def listMember {α : Type} (name : String) (write : List α → Json) : List α → List (String × Json)
  | [] => []
  | xs => [(name, write xs)]

/-- A list of texts. -/
def ofTexts (xs : List String) : Json := .array (xs.map .string)

/-- A map from names to texts. -/
def ofTextDict (d : Dict String) : Json := .object (d.map fun p => (p.1, .string p.2))

/-- A natural number. -/
def ofNat (n : Nat) : Json := .number (.int n)

/-- A floating-point number. -/
def ofReal (d : Double) : Json := .number (.double d)

end Json
end FormLogic
