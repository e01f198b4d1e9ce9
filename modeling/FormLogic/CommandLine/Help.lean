/-
  FormLogic.CommandLine.Help

  The pages of help: what the program or one of its commands is for, how it
  is called, and the words that it takes.

  Specification, section 10 (command line).
-/

namespace FormLogic
namespace CommandLine

/-- A page of help: on the program, at length or in short, or on one of its commands. -/
inductive HelpPage where
  | overview (atLength : Bool)
  | validate
  | visibility
  | schema
  | help
deriving DecidableEq, Repr

/-! ## Layout -/

/-- A word and what it stands for. -/
abbrev Entry := String × String

/-- The entries under a heading, what they stand for in one column. -/
def columns (heading : String) (entries : List Entry) : String :=
  let width := (entries.map fun e => e.1.length).foldl max 0
  "\n" ++ heading ++ ":\n" ++ String.join (entries.map fun e =>
    "  " ++ e.1 ++ String.ofList (List.replicate (width - e.1.length) ' ') ++ "  " ++ e.2 ++ "\n")

/-- The entries under a heading, what they stand for on lines of their own. -/
def paragraphs (heading : String) (entries : List Entry) : String :=
  "\n" ++ heading ++ ":\n" ++ "\n".intercalate (entries.map fun e =>
    "  " ++ e.1 ++ "\n          " ++ e.2 ++ "\n")

/-- A page: what it is about, how to call that, and what there is to choose from. -/
def layout (about usage : String) (parts : List String) : String :=
  about ++ "\n\nUsage: formspec" ++ usage ++ "\n" ++ String.join parts

/-! ## Pages -/

def validateAbout : String := "Validate a data file against a form schema"

def visibilityAbout : String := "Print the visible/disabled state of every field as JSON"

def schemaAbout : String := "Print the JSON Schema describing form schema files"

def helpAbout : String := "Print this message or the help of the given subcommand(s)"

/-- The commands of the program. -/
def commandEntries : List Entry :=
  [("validate", validateAbout), ("visibility", visibilityAbout), ("schema", schemaAbout),
    ("help", helpAbout)]

/-- The options for the two files that most commands look at. -/
def fileEntries : List Entry :=
  [("    --schema <SCHEMA>", "Path to the form schema JSON"),
    ("    --data <DATA>", "Path to the data JSON file")]

/-- The option for help on a command. -/
def helpEntry : Entry := ("-h, --help", "Print help")

/-- The text of a page. -/
def HelpPage.text : HelpPage → String
  | .overview true =>
    layout "Validates data files against form schemas and reports field visibility" " <COMMAND>"
      [columns "Commands" commandEntries,
        paragraphs "Options"
          [("-h, --help", "Print help (see a summary with '-h')"),
            ("-V, --version", "Print version")]]
  | .overview false =>
    layout "Form schema validation CLI" " <COMMAND>"
      [columns "Commands" commandEntries,
        columns "Options"
          [("-h, --help", "Print help (see more with '--help')"),
            ("-V, --version", "Print version")]]
  | .validate =>
    layout validateAbout " validate [OPTIONS] --schema <SCHEMA> --data <DATA>"
      [columns "Options"
        (fileEntries
          ++ [("    --messages <MESSAGES>", "Optional JSON object of form-level message overrides"),
            ("    --visible-only", "Skip fields hidden by their visibility rules"), helpEntry])]
  | .visibility =>
    layout visibilityAbout " visibility --schema <SCHEMA> --data <DATA>"
      [columns "Options" (fileEntries ++ [helpEntry])]
  | .schema => layout schemaAbout " schema" [columns "Options" [helpEntry]]
  | .help =>
    layout helpAbout " help [COMMAND]..."
      [columns "Arguments" [("[COMMAND]...", "Print help for the subcommand(s)")]]

end CommandLine
end FormLogic
