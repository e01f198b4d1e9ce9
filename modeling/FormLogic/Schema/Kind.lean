/-
  FormLogic.Schema.Kind

  The kinds of fields.

  Specification, section 3 (field type).
-/

import FormLogic.Json.Shape

namespace FormLogic

/-- What kind of input a field is. -/
inductive FieldKind where
  | text
  | email
  | password
  | url
  | tel
  | textarea
  | hidden
  | number
  | checkbox
  | date
  | datetime
  | time
  | select
  | radio
  | autocomplete
  | file
  | array
  | object
deriving DecidableEq, Repr

namespace FieldKind

/-- All kinds. -/
def all : List FieldKind :=
  [text, email, password, url, tel, textarea, hidden, number, checkbox, date, datetime, time,
    select, radio, autocomplete, file, array, object]

/-- The name of a kind. -/
def name : FieldKind → String
  | text => "text"
  | email => "email"
  | password => "password"
  | url => "url"
  | tel => "tel"
  | textarea => "textarea"
  | hidden => "hidden"
  | number => "number"
  | checkbox => "checkbox"
  | date => "date"
  | datetime => "datetime"
  | time => "time"
  | select => "select"
  | radio => "radio"
  | autocomplete => "autocomplete"
  | file => "file"
  | array => "array"
  | object => "object"

/-- The name of a kind with a capital letter. -/
def title (k : FieldKind) : String := k.name.capitalize

/-- Whether the values of a kind are texts. -/
def isTextual : FieldKind → Bool
  | text => true
  | email => true
  | password => true
  | url => true
  | tel => true
  | textarea => true
  | hidden => true
  | _ => false

def decode : Json → Shaped FieldKind := Json.asChoice all name

def encode (k : FieldKind) : Json := .string k.name

end FieldKind
end FormLogic
