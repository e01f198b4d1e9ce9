/-
  FormLogic.Validation.Check

  What a field demands of a value, one demand at a time.  A demand about
  texts holds of everything that is no text, and so for numbers and lists:
  the demand for the right type comes first.

  Specification, section 4.5: the checks of each kind of field.
-/

import FormLogic.Json.Basic
import FormLogic.Text.Blank
import FormLogic.Calendar
import FormLogic.Pattern.Match
import FormLogic.Url.Parser

namespace FormLogic

/-- What a date-like field holds. -/
inductive DateKind where
  | date
  | dateTime
  | time
deriving DecidableEq, Repr

namespace DateKind

/-- Whether a text is written like one of the kind. -/
def isText (k : DateKind) (text : String) : Bool :=
  match k with
  | date => Calendar.isDate text || Calendar.isDateTime text
  | dateTime => Calendar.isDateTime text || Calendar.isLocalDateTime text
  | time => Calendar.isTime text

end DateKind

/-- A demand on a value. -/
inductive Demand where
  | isText
  | isNumber
  | isFlag
  | isDate (k : DateKind)
  | isList
  | isRecord
  | minLength (n : Nat)
  | maxLength (n : Nat)
  | pattern (p : Pattern)
  | email (p : Pattern)
  | url
  | min (d : Double)
  | max (d : Double)
  | minItems (n : Nat)
  | maxItems (n : Nat)

/-- The number that a value is: a number, or a text that spells a finite one between blanks. -/
def Json.number? : Json → Option Double
  | .number n => some n.toDouble
  | .string s =>
    match Extended.ofText? (Text.trim s) with
    | some (.finite d) => some d
    | _ => none
  | _ => none

namespace Demand

/-- Integers that can count instants are below this in size. -/
def instantLimit : Int := Nat.pow 2 63

/-- Whether a value is a date, a date with a time or a time; all but times may be given as
counts. -/
def isDateValue (k : DateKind) : Json → Bool
  | .string s => k.isText s
  | .number (.int n) => k != .time && decide (-instantLimit ≤ n ∧ n < instantLimit)
  | _ => false

/-- Whether a demand about texts holds: of texts by a test, of all else without. -/
def ofText (test : String → Bool) (v : Json) : Bool := v.text?.all test

/-- Whether a demand about numbers holds. -/
def ofNumber (test : Double → Bool) (v : Json) : Bool := v.number?.all test

/-- Whether a demand about lists holds. -/
def ofList (test : List Json → Bool) (v : Json) : Bool := v.items?.all test

/-- Whether a value meets a demand. -/
def holds (d : Demand) (v : Json) : Bool :=
  match d with
  | isText => v.isString
  | isNumber => v.number?.isSome
  | isFlag => v.isBool
  | isDate k => isDateValue k v
  | isList => v.isArray
  | isRecord => v.isObject
  | minLength n => ofText (fun s => decide (n ≤ s.length)) v
  | maxLength n => ofText (fun s => decide (s.length ≤ n)) v
  | pattern p => ofText p.isMatch v
  | email p => ofText p.isMatch v
  | url => ofText (fun s => (Url.ofText s).toBool) v
  | min m => ofNumber (fun x => m.le x) v
  | max m => ofNumber (fun x => x.le m) v
  | minItems n => ofList (fun xs => decide (n ≤ xs.length)) v
  | maxItems n => ofList (fun xs => decide (xs.length ≤ n)) v

end Demand

/-- A demand with the message for values that do not meet it. -/
structure Check where
  demand : Demand
  message : String

namespace Check

/-- The message of a check, if a value fails it. -/
def violation? (c : Check) (v : Json) : Option String :=
  if c.demand.holds v then none else some c.message

/-- The message of the first check that a value fails. -/
def firstViolation? (checks : List Check) (v : Json) : Option String :=
  checks.findSome? fun c => c.violation? v

end Check
end FormLogic
