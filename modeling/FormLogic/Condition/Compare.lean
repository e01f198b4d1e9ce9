/-
  FormLogic.Condition.Compare

  The comparisons that conditions are made of.  Values may be missing.

    * `strictEq` — same kind and same content, numbers by value.
    * `toNumber?` — the number that an ordering sees in a value; `none` where
      there is no order (missing, lists, objects, text that is no number).
    * `containsValue?`, `isMember?` — containment and membership, `none`
      where the question does not arise.
    * `isEmpty` — missing, null, the empty text or the empty list.

  Specification, section 4.2 (operator table).
-/

import FormLogic.Json.Basic
import FormLogic.Text.Blank

namespace FormLogic
namespace Condition

/-- Equality of values: same kind, numbers by value, lists and objects part by part. -/
def strictEq (a b : Json) : Bool :=
  Json.agree (fun m n => m.toDouble.same n.toDouble) a b

/-- Equality of values that may be missing. -/
def matchesEqual : Option Json → Option Json → Bool
  | some a, some b => strictEq a b
  | none, none => true
  | _, _ => false

/-- The number that a text stands for: blank text is zero. -/
def textNumber? (s : String) : Option Extended :=
  let t := Text.trim s
  if t = "" then some (.finite (Double.zero false)) else Extended.ofText? t

/-- The number that an ordering sees in a value. -/
def toNumber? : Option Json → Option Extended
  | none => none
  | some .null => some (.finite (Double.zero false))
  | some (.bool b) => some (.finite (Double.ofInt (if b then 1 else 0)))
  | some (.number n) => some (.finite n.toDouble)
  | some (.string s) => textNumber? s
  | some (.array _) => none
  | some (.object _) => none

/-- An ordering of two values: false unless both have a number. -/
def compareNumbers (order : Extended → Extended → Bool) (a b : Option Json) : Bool :=
  match toNumber? a, toNumber? b with
  | some x, some y => order x y
  | _, _ => false

/-- The text that a scalar is searched for as. -/
def scalarText? : Json → Option String
  | .string s => some s
  | .number n => some n.text
  | .bool b => some (if b then "true" else "false")
  | _ => none

/-- Whether a text or list contains a value; `none` for anything else. -/
def containsValue? (actual needle : Option Json) : Option Bool :=
  match actual with
  | some (.string text) =>
    some ((needle.bind scalarText?).any fun t => Text.contains text t)
  | some (.array items) => some (needle.any fun n => items.any fun item => strictEq item n)
  | _ => none

/-- Whether a value is in a list of candidates; `none` without a list. -/
def isMember? (actual : Option Json) (candidates : Option (List Json)) : Option Bool :=
  candidates.map fun cs => actual.any fun a => cs.any fun item => strictEq item a

/-- Whether a value is empty. -/
def isEmpty : Option Json → Bool
  | none => true
  | some .null => true
  | some (.string s) => s = ""
  | some (.array items) => items.isEmpty
  | some _ => false

end Condition
end FormLogic
