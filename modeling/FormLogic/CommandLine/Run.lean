/-
  FormLogic.CommandLine.Run

  What a command prints and with which code it ends, given the contents of
  files.  Files are looked at in a fixed order, and the first that cannot be
  used decides.

  Specification, section 10 (command line).  Logging (section 6.2) is left out.
-/

import FormLogic.CommandLine.Arguments
import FormLogic.Json.Parser
import FormLogic.Json.Printer
import FormLogic.Schema.Codec
import FormLogic.Schema.Description
import FormLogic.Validation.Form
import FormLogic.Visibility

namespace FormLogic
namespace CommandLine

/-- The end of a run: the code, what was printed, and the error that was reported. -/
structure Exit where
  code : Nat
  output : String := ""
  error : Option String := none
deriving DecidableEq, Repr

/-- Reading a file: its text, or why it cannot be read. -/
abbrev Reader := String → Except String String

/-! ## Failures -/

/-- Why a run comes to nothing, with the path of the file at fault. -/
inductive Failure where
  | unreadable (path reason : String)
  | notJson (path : String) (reason : SyntaxError)
  | notForm (path : String) (reason : ShapeError)
  | notMessages (path : String) (reason : ShapeError)
  | defective (path : String) (defect : Defect)
deriving DecidableEq

/-- The wording of a failure. -/
def Failure.message : Failure → String
  | .unreadable path reason => "failed to read " ++ path ++ ": " ++ reason
  | .notJson path reason => "failed to parse " ++ path ++ ": " ++ reason.message
  | .notForm path reason => "invalid form schema " ++ path ++ ": " ++ reason.message
  | .notMessages path reason => "invalid messages file " ++ path ++ ": " ++ reason.message
  | .defective path defect => "schema error in " ++ path ++ ": " ++ defect.message

/-! ## Loading -/

/-- The document in a file. -/
def loadJson (read : Reader) (path : String) : Except Failure Json :=
  match read path with
  | .error reason => .error (.unreadable path reason)
  | .ok text => (Json.parse text).mapError (.notJson path)

/-- The form in a file. -/
def loadForm (read : Reader) (path : String) : Except Failure Form := do
  let v ← loadJson read path
  (Form.decode v).mapError (.notForm path)

/-- The templates of messages in a file, none without one. -/
def loadMessages (read : Reader) (path : Option String) : Except Failure MessageOverrides :=
  match path with
  | none => .ok []
  | some path => do
    let v ← loadJson read path
    (Json.asTexts v).mapError (.notMessages path)

/-! ## Commands -/

section Commands

variable [PatternReader]

/-- The messages for a data file. -/
def findErrors (read : Reader) (schema data : String) (messages : Option String)
    (visibleOnly : Bool) : Except Failure ErrorMap := do
  let form ← loadForm read schema
  let values ← loadJson read data
  let overrides ← loadMessages read messages
  let validator ← (form.compile overrides).mapError (.defective schema)
  return if visibleOnly then validator.validateVisible values else validator.validate values

/-- A line of the report: a path and its message. -/
def errorLine (e : String × String) : String := "  " ++ e.1 ++ " - " ++ e.2 ++ "\n"

/-- The report on a data file. -/
def report (errors : ErrorMap) : String :=
  if errors = [] then "Validation result: valid\n"
  else "Validation result: invalid\nErrors:\n" ++ String.join (errors.map errorLine)

/-- The state of a field as a document, in the order in which it is shown. -/
def stateDocument (s : FieldState) : Json :=
  .object [("visible", .bool s.visible), ("disabled", .bool s.disabled)]

/-- The states of all fields of a form under the values of a file. -/
def showStates (read : Reader) (schema data : String) : Except Failure String := do
  let form ← loadForm read schema
  let values ← loadJson read data
  let states := Dict.mapValues stateDocument (form.visibility values)
  return (Json.object states).pretty 0 ++ "\n"

/-- The end of a run that failed. -/
def failed (e : Failure) : Exit := ⟨1, "", some e.message⟩

/-- What a command prints and with which code it ends. -/
def runCommand (read : Reader) : Command → Exit
  | .validate schema data messages visibleOnly =>
    match findErrors read schema data messages visibleOnly with
    | .error e => failed e
    | .ok errors =>
      if errors = [] then ⟨0, report errors, none⟩
      else ⟨1, report errors, some "validation failed"⟩
  | .visibility schema data =>
    match showStates read schema data with
    | .error e => failed e
    | .ok text => ⟨0, text, none⟩
  | .schema => ⟨0, Description.form.pretty 0 ++ "\n", none⟩
  | .version => ⟨0, "form-cli 0.1.0\n", none⟩
  | .help page => ⟨0, page.text, none⟩

/-- The code for words that ask for nothing. -/
def usageCode : Nat := 2

/-- What the words of a command line print and with which code the run ends.  The report on words
that ask for nothing is left out. -/
def run (read : Reader) (words : List String) : Exit :=
  match readCommand words with
  | .ok command => runCommand read command
  | .error _ => ⟨usageCode, "", none⟩

end Commands

/-- The files that a command looks at, in order. -/
def Command.files : Command → List String
  | .validate form values messages _ => [form, values] ++ messages.toList
  | .visibility form values => [form, values]
  | _ => []

/-- The line that reports an error. -/
def errorReport (message : String) : String := "Error: " ++ Text.quoted message

end CommandLine
end FormLogic
