/-
  FormLogic.CommandLine.Arguments

  What the words of a command line ask for: to validate a data file, to show
  the states of fields, to print the description of form files, to say which
  program this is, or to help with one of these.

  Specification, section 10 (command line).  Of words that ask for nothing it is
  kept why, but not how that is reported.
-/

import FormLogic.CommandLine.Help
import FormLogic.Dict

namespace FormLogic
namespace CommandLine

/-- What is asked for. -/
inductive Command where
  | validate (schema data : String) (messages : Option String) (visibleOnly : Bool)
  | visibility (schema data : String)
  | schema
  | version
  | help (page : HelpPage)
deriving DecidableEq, Repr

/-- Why words ask for nothing. -/
inductive UsageError where
  | noCommand
  | unknownCommand
  | unknownWord
  | repeated
  | missingValue
  | unexpectedValue
  | missingOption
deriving DecidableEq, Repr

/-! ## Options -/

/-- The options of a command: those with a value, and those without. -/
structure Options where
  valued : List String
  switches : List String

/-- The options that were given, with their values; those without a value have the empty one. -/
abbrev Given := List (String × String)

/-- A word of the form "--name=value", parted. -/
def splitOption (word : List Char) : String × Option String :=
  let name := word.takeWhile (· ≠ '=')
  (String.ofList name,
    match word.dropWhile (· ≠ '=') with
    | [] => none
    | _ :: value => some (String.ofList value))

/-- Whether a word can be the value of the option before it: a word with a dash in front can not,
unless it is the dash alone. -/
def isValue (word : String) : Bool :=
  match word.toList with
  | [] => false
  | ['-'] => true
  | '-' :: _ => false
  | _ => true

/-- Adds an option unless it was given before. -/
def give (given : Given) (name value : String) : Except UsageError Given :=
  if given.any fun g => g.1 = name then .error .repeated else .ok ((name, value) :: given)

/-- Whether a word asks for help: letters behind "-h" are not looked at. -/
def asksHelp (word : String) : Bool := word = "--help" || "-h".isPrefixOf word

/-- Whether a word asks which program this is: letters behind "-V" are not looked at. -/
def asksVersion (word : String) : Bool := word = "--version" || "-V".isPrefixOf word

/-- What the words after a command give; nothing if they ask for help. -/
def readOptions (options : Options) (given : Given) :
    List String → Except UsageError (Option Given)
  | [] => .ok (some given)
  | word :: rest =>
    if asksHelp word then .ok none
    else if word = "--" then
      (if rest = [] then .ok (some given) else .error .unknownWord)
    else
      match word.toList with
      | '-' :: '-' :: cs =>
        match splitOption cs with
        | (name, value) =>
          if options.switches.contains name then
            match value with
            | some _ => .error .unexpectedValue
            | none =>
              match give given name "" with
              | .ok given => readOptions options given rest
              | .error e => .error e
          else if options.valued.contains name then
            match value, rest with
            | some v, rest =>
              if v = "" then .error .missingValue
              else
                match give given name v with
                | .ok given => readOptions options given rest
                | .error e => .error e
            | none, [] => .error .missingValue
            | none, v :: rest =>
              if isValue v then
                match give given name v with
                | .ok given => readOptions options given rest
                | .error e => .error e
              else .error .missingValue
          else .error .unknownWord
      | _ => .error .unknownWord

/-- The value of an option that has to be given. -/
def need (given : Given) (name : String) : Except UsageError String :=
  match given.lookup name with
  | some v => .ok v
  | none => .error .missingOption

/-! ## Commands -/

/-- The command with the options given, or help on it. -/
def withOptions (page : HelpPage) (options : Options) (words : List String)
    (make : Given → Except UsageError Command) : Except UsageError Command :=
  match readOptions options [] words with
  | .ok (some given) => make given
  | .ok none => .ok (.help page)
  | .error e => .error e

/-- The page of help on a command, by its name. -/
def helpOn? (name : String) : Option HelpPage :=
  match name with
  | "validate" => some .validate
  | "visibility" => some .visibility
  | "schema" => some .schema
  | "help" => some .help
  | _ => none

/-- What the words of a command line ask for. -/
def readCommand : List String → Except UsageError Command
  | [] => .error .noCommand
  | "validate" :: words =>
    withOptions .validate ⟨["schema", "data", "messages"], ["visible-only"]⟩ words fun given => do
      let schema ← need given "schema"
      let data ← need given "data"
      return .validate schema data (given.lookup "messages")
        (given.lookup "visible-only").isSome
  | "visibility" :: words =>
    withOptions .visibility ⟨["schema", "data"], []⟩ words fun given => do
      let schema ← need given "schema"
      let data ← need given "data"
      return .visibility schema data
  | "schema" :: words => withOptions .schema ⟨[], []⟩ words fun _ => .ok .schema
  | "help" :: words =>
    match words with
    | [] => .ok (.help (.overview true))
    | [word] =>
      match helpOn? word with
      | some page => .ok (.help page)
      | none => .error .unknownCommand
    | _ => .error .unknownCommand
  | word :: _ =>
    if asksVersion word then .ok .version
    else if asksHelp word then .ok (.help (.overview (word = "--help")))
    else .error .unknownCommand

end CommandLine
end FormLogic
