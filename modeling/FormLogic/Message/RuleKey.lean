/-
  FormLogic.Message.RuleKey

  The rules that can report a message, with their names and the templates
  used where nothing else is given.

  Specification, section 3 (validation messages).
-/

import FormLogic.Json.Shape

namespace FormLogic

/-- A rule that can report a message. -/
inductive RuleKey where
  | required
  | minLength
  | maxLength
  | pattern
  | email
  | url
  | min
  | max
  | minItems
  | maxItems
  | string
  | number
  | boolean
  | date
  | array
  | object
  | custom
deriving DecidableEq, Repr

namespace RuleKey

/-- All rules. -/
def all : List RuleKey :=
  [required, minLength, maxLength, pattern, email, url, min, max, minItems, maxItems, string,
    number, boolean, date, array, object, custom]

/-- The name of a rule. -/
def name : RuleKey → String
  | required => "required"
  | minLength => "minLength"
  | maxLength => "maxLength"
  | pattern => "pattern"
  | email => "email"
  | url => "url"
  | min => "min"
  | max => "max"
  | minItems => "minItems"
  | maxItems => "maxItems"
  | string => "string"
  | number => "number"
  | boolean => "boolean"
  | date => "date"
  | array => "array"
  | object => "object"
  | custom => "custom"

/-- The template of a rule where no other is given. -/
def defaultTemplate : RuleKey → String
  | required => "This field is required"
  | minLength => "Must be at least \x7b\x7bmin\x7d\x7d characters"
  | maxLength => "Must be at most \x7b\x7bmax\x7d\x7d characters"
  | pattern => "Invalid format"
  | email => "Invalid email address"
  | url => "Invalid URL"
  | min => "Must be at least \x7b\x7bmin\x7d\x7d"
  | max => "Must be at most \x7b\x7bmax\x7d\x7d"
  | minItems => "Must have at least \x7b\x7bmin\x7d\x7d items"
  | maxItems => "Must have at most \x7b\x7bmax\x7d\x7d items"
  | string => "Must be text"
  | number => "Must be a number"
  | boolean => "Must be true or false"
  | date => "Invalid date"
  | array => "Must be a list"
  | object => "Must be an object"
  | custom => "Validation failed"

def decode : Json → Shaped RuleKey := Json.asChoice all name

def encode (k : RuleKey) : Json := .string k.name

end RuleKey
end FormLogic
