/-
  FormLogic.Validation.Defect

  What can be wrong with a form, found before any value is looked at.

  Specification, section 6.1: errors of whoever writes a form, which fail
  loudly.
-/

namespace FormLogic

/-- The pairs of bounds of which the lower must not exceed the upper. -/
inductive BoundPair where
  | length
  | range
  | items
deriving DecidableEq, Repr

namespace BoundPair

/-- The name of a pair of bounds. -/
def name : BoundPair → String
  | length => "length"
  | range => "range"
  | items => "items"

end BoundPair

/-- A defect of a form, with the name or path of the field that has it, and for a pattern with the
reason why it is none. -/
inductive Defect where
  | invalidPattern (field reason : String)
  | missingItemSchema (path : String)
  | duplicateField (path : String)
  | conflictingBounds (field : String) (bounds : BoundPair)
deriving DecidableEq, Repr

namespace Defect

/-- The wording of a defect; that of a pattern ends with the reason of its reader. -/
def message : Defect → String
  | invalidPattern field reason =>
    "field '" ++ field ++ "' has an invalid pattern: " ++ reason
  | missingItemSchema path => "array field '" ++ path ++ "' has no itemSchema"
  | duplicateField path => "field '" ++ path ++ "' is declared more than once"
  | conflictingBounds field bounds =>
    "field '" ++ field ++ "' has a lower " ++ bounds.name ++ " bound above its upper bound"

end Defect
end FormLogic
