/-
  FormLogic.Proofs.CommandLine.Verdict

  How a run that validates a data file ends.

  Four steps come before there is anything to report: reading the form, the
  data, the templates of messages, and compiling.  `Loads` says that all four
  succeed and what comes out; `FirstFailure` says which of them is the first
  that does not, and why.  One of the two always applies, and each fixes the
  whole end of the run.

    * `readCommand_validateWords` — the words that ask for such a run.
    * `findErrors_eq_ok_iff`, `findErrors_eq_error_iff` — the steps, one after
      the other.
    * `EndsByVerdict` — what is said about the end of a run.
    * `run_by_verdict` — every such run ends so.
-/

import Mathlib.Data.List.Permutation
import FormLogic.CommandLine.Run
import FormLogic.Pattern.Parser
import FormLogic.Proofs.Json.Record

namespace FormLogic

/-- The messages for a document, of all fields or of those that are shown. -/
def FormValidator.findings (v : FormValidator) (visibleOnly : Bool) (values : Json) : ErrorMap :=
  if visibleOnly then v.validateVisible values else v.validate values

/-- The messages are in the order of their paths. -/
theorem FormValidator.ordered_findings (v : FormValidator) (visibleOnly : Bool) (values : Json) :
    Dict.Ordered (v.findings visibleOnly values) := by
  cases visibleOnly
  · exact Dict.ordered_ofList _
  · exact Dict.ordered_ofList _

namespace CommandLine

variable {read : Reader} {path schema data : String} {messages : Option String}
  {visibleOnly : Bool} {e : Failure}

/-! ## Words that ask for a validation -/

/-- The words that ask to validate a data file, with a file of messages or without one, and for
all fields or for those that are shown. -/
def validateWords (schema data : String) (messages : Option String) (visibleOnly : Bool) :
    List String :=
  ["validate", "--schema", schema, "--data", data]
    ++ messages.toList.flatMap (fun path => ["--messages", path])
    ++ (if visibleOnly then ["--visible-only"] else [])

/-- A word spells an option: two dashes and the name, without a value. -/
structure Spells (word name : String) : Prop where
  toList : word.toList = '-' :: '-' :: name.toList
  plain : splitOption name.toList = (name, none)
  noHelp : asksHelp word = false
  noEnd : word ≠ "--"

/-- Among the words with two dashes only one asks for help. -/
theorem Spells.of_ne_help {word name : String} (htoList : word.toList = '-' :: '-' :: name.toList)
    (hplain : splitOption name.toList = (name, none)) (hhelp : word ≠ "--help")
    (hend : word ≠ "--") : Spells word name := by
  have hshort : "-h".isPrefixOf word = false :=
    String.startsWith_string_eq_false_iff.mpr (by simp [htoList])
  exact ⟨htoList, hplain, by simp [asksHelp, hhelp, hshort], hend⟩

theorem spells_schema : Spells "--schema" "schema" :=
  .of_ne_help (by decide) (by decide) (by decide) (by decide)

theorem spells_data : Spells "--data" "data" :=
  .of_ne_help (by decide) (by decide) (by decide) (by decide)

theorem spells_messages : Spells "--messages" "messages" :=
  .of_ne_help (by decide) (by decide) (by decide) (by decide)

theorem spells_visibleOnly : Spells "--visible-only" "visible-only" :=
  .of_ne_help (by decide) (by decide) (by decide) (by decide)

section

variable {options : Options} {given : Given} {word name value : String} {rest : List String}

theorem give_of_fresh (hfresh : ∀ g ∈ given, g.1 ≠ name) :
    give given name value = .ok ((name, value) :: given) := by
  have hany : ¬ (given.any fun g => g.1 = name) = true := by
    intro h
    obtain ⟨g, hg, hname⟩ := List.any_eq_true.mp h
    exact hfresh g hg (of_decide_eq_true hname)
  rw [give, if_neg hany]

/-- An option with a value takes the word behind it. -/
theorem readOptions_valued (h : Spells word name) (hswitch : name ∉ options.switches)
    (hvalued : name ∈ options.valued) (hvalue : isValue value = true)
    (hfresh : ∀ g ∈ given, g.1 ≠ name) :
    readOptions options given (word :: value :: rest)
      = readOptions options ((name, value) :: given) rest := by
  rw [readOptions, h.noHelp, if_neg Bool.false_ne_true, if_neg h.noEnd, h.toList]
  simp only [h.plain]
  rw [if_neg (by simpa using hswitch), if_pos (by simpa using hvalued), if_pos hvalue,
    give_of_fresh hfresh]

/-- An option without a value stands alone. -/
theorem readOptions_switch (h : Spells word name) (hswitch : name ∈ options.switches)
    (hfresh : ∀ g ∈ given, g.1 ≠ name) :
    readOptions options given (word :: rest) = readOptions options ((name, "") :: given) rest := by
  rw [readOptions, h.noHelp, if_neg Bool.false_ne_true, if_neg h.noEnd, h.toList]
  simp only [h.plain]
  rw [if_pos (by simpa using hswitch), give_of_fresh hfresh]

end

/-- These words ask for the validation, whatever files they name; a name only has to be one that
can stand behind an option. -/
theorem readCommand_validateWords (hs : isValue schema = true) (hd : isValue data = true)
    (hm : ∀ path ∈ messages, isValue path = true) :
    readCommand (validateWords schema data messages visibleOnly)
      = .ok (.validate schema data messages visibleOnly) := by
  simp only [validateWords, List.cons_append, List.nil_append, readCommand, withOptions]
  -- the two files that are always named come first
  rw [readOptions_valued spells_schema (by decide) (by decide) hs (by simp),
    readOptions_valued spells_data (by decide) (by decide) hd (by simp)]
  cases messages with
  | none =>
    cases visibleOnly with
    | false => rfl
    | true =>
      simp only [Option.toList_none, List.flatMap_nil, List.nil_append, if_true]
      rw [readOptions_switch spells_visibleOnly (by decide) (by simp)]
      rfl
  | some path =>
    simp only [Option.toList_some, List.flatMap_singleton, List.cons_append, List.nil_append]
    rw [readOptions_valued spells_messages (by decide) (by decide) (hm path rfl) (by simp)]
    cases visibleOnly with
    | false => rfl
    | true =>
      simp only [if_true]
      rw [readOptions_switch spells_visibleOnly (by decide) (by simp)]
      rfl

/-! ## What files hold -/

/-- A file holds a document. -/
def HoldsJson (read : Reader) (path : String) (v : Json) : Prop :=
  ∃ text, read path = .ok text ∧ Json.parse text = .ok v

/-- A file holds a form. -/
def HoldsForm (read : Reader) (path : String) (form : Form) : Prop :=
  ∃ v, HoldsJson read path v ∧ Form.decode v = .ok form

/-- A file holds templates of messages, in an object of texts; where no file is named there are
none. -/
def HoldsMessages (read : Reader) : Option String → MessageOverrides → Prop
  | none, overrides => overrides = []
  | some path, overrides => HoldsJson read path (Json.ofTextDict overrides)

/-- Why a file holds no document: it cannot be read, or its text cannot. -/
inductive NoJson (read : Reader) (path : String) : Failure → Prop
  | unreadable {reason : String} :
      read path = .error reason → NoJson read path (.unreadable path reason)
  | notJson {text : String} {reason : SyntaxError} :
      read path = .ok text → Json.parse text = .error reason →
      NoJson read path (.notJson path reason)

/-- Why a file holds no form: it holds no document, or one that is no form. -/
inductive NoForm (read : Reader) (path : String) : Failure → Prop
  | json {e : Failure} : NoJson read path e → NoForm read path e
  | notForm {v : Json} {reason : ShapeError} :
      HoldsJson read path v → Form.decode v = .error reason →
      NoForm read path (.notForm path reason)

/-- Why the file that is named holds no templates: it holds no document, or one that is no map of
texts. -/
inductive NoMessages (read : Reader) : Option String → Failure → Prop
  | json {path : String} {e : Failure} : NoJson read path e → NoMessages read (some path) e
  | notMessages {path : String} {v : Json} {reason : ShapeError} :
      HoldsJson read path v → Json.asTexts v = .error reason →
      NoMessages read (some path) (.notMessages path reason)

theorem loadJson_eq_ok_iff {v : Json} : loadJson read path = .ok v ↔ HoldsJson read path v := by
  rw [loadJson, HoldsJson]
  cases hread : read path with
  | error reason => simp
  | ok text => simp [Except.mapError_eq_ok]

theorem loadJson_eq_error_iff : loadJson read path = .error e ↔ NoJson read path e := by
  rw [loadJson]
  cases hread : read path with
  | error reason =>
    constructor
    · intro h
      obtain rfl := Except.error.inj h
      exact .unreadable hread
    · intro h
      cases h with
      | unreadable h =>
        obtain rfl := Except.error.inj (hread.symm.trans h)
        rfl
      | notJson h _ => cases hread.symm.trans h
  | ok text =>
    rw [Except.mapError_eq_error]
    constructor
    · rintro ⟨reason, hparse, rfl⟩
      exact .notJson hread hparse
    · intro h
      cases h with
      | unreadable h => cases hread.symm.trans h
      | notJson h hparse =>
        obtain rfl := Except.ok.inj (hread.symm.trans h)
        exact ⟨_, hparse, rfl⟩

theorem loadForm_eq_ok_iff {form : Form} :
    loadForm read path = .ok form ↔ HoldsForm read path form := by
  rw [loadForm, Except.bind_eq_ok]
  simp only [loadJson_eq_ok_iff, Except.mapError_eq_ok]
  rfl

theorem loadForm_eq_error_iff : loadForm read path = .error e ↔ NoForm read path e := by
  rw [loadForm, Except.bind_eq_error]
  simp only [loadJson_eq_error_iff, loadJson_eq_ok_iff, Except.mapError_eq_error]
  constructor
  · rintro (h | ⟨v, hv, reason, hdecode, rfl⟩)
    · exact .json h
    · exact .notForm hv hdecode
  · intro h
    cases h with
    | json h => exact Or.inl h
    | notForm hv hdecode => exact Or.inr ⟨_, hv, _, hdecode, rfl⟩

theorem loadMessages_eq_ok_iff {overrides : MessageOverrides} :
    loadMessages read messages = .ok overrides ↔ HoldsMessages read messages overrides := by
  cases messages with
  | none =>
    rw [loadMessages, HoldsMessages, Except.ok.injEq]
    exact eq_comm
  | some path =>
    rw [loadMessages, HoldsMessages, Except.bind_eq_ok]
    simp only [loadJson_eq_ok_iff, Except.mapError_eq_ok, Json.asTexts_eq_ok_iff]
    simp

theorem loadMessages_eq_error_iff :
    loadMessages read messages = .error e ↔ NoMessages read messages e := by
  cases messages with
  | none =>
    rw [loadMessages]
    exact ⟨nofun, nofun⟩
  | some path =>
    rw [loadMessages, Except.bind_eq_error]
    simp only [loadJson_eq_error_iff, loadJson_eq_ok_iff, Except.mapError_eq_error]
    constructor
    · rintro (h | ⟨v, hv, reason, htexts, rfl⟩)
      · exact .json h
      · exact .notMessages hv htexts
    · intro h
      cases h with
      | json h => exact Or.inl h
      | notMessages hv htexts => exact Or.inr ⟨_, hv, _, htexts, rfl⟩

/-! ## The steps of a run -/

section Reader

variable [PatternReader]

/-- All steps succeed: the files hold a form, a document and templates of messages, and the form
compiles with these. -/
def Loads (read : Reader) (schema data : String) (messages : Option String)
    (validator : FormValidator) (values : Json) : Prop :=
  ∃ form overrides, HoldsForm read schema form ∧ HoldsJson read data values
    ∧ HoldsMessages read messages overrides ∧ form.compile overrides = .ok validator

/-- Why the first step that fails does so; the steps before it succeed. -/
inductive FirstFailure (read : Reader) (schema data : String) (messages : Option String) :
    Failure → Prop
  | schema {e : Failure} : NoForm read schema e → FirstFailure read schema data messages e
  | data {form : Form} {e : Failure} :
      HoldsForm read schema form → NoJson read data e → FirstFailure read schema data messages e
  | messages {form : Form} {values : Json} {e : Failure} :
      HoldsForm read schema form → HoldsJson read data values → NoMessages read messages e →
      FirstFailure read schema data messages e
  | compile {form : Form} {values : Json} {overrides : MessageOverrides} {defect : Defect} :
      HoldsForm read schema form → HoldsJson read data values →
      HoldsMessages read messages overrides → form.compile overrides = .error defect →
      FirstFailure read schema data messages (.defective schema defect)

/-- There are messages to report where all steps succeed. -/
theorem findErrors_eq_ok_iff {errors : ErrorMap} :
    findErrors read schema data messages visibleOnly = .ok errors ↔
      ∃ validator values, Loads read schema data messages validator values
        ∧ validator.findings visibleOnly values = errors := by
  simp only [findErrors, Except.bind_eq_ok, loadForm_eq_ok_iff, loadJson_eq_ok_iff,
    loadMessages_eq_ok_iff, Except.mapError_eq_ok]
  constructor
  · rintro ⟨form, hform, values, hvalues, overrides, hoverrides, validator, hcompile, herrors⟩
    exact ⟨validator, values, ⟨form, overrides, hform, hvalues, hoverrides, hcompile⟩,
      Except.ok.inj herrors⟩
  · rintro ⟨validator, values, ⟨form, overrides, hform, hvalues, hoverrides, hcompile⟩, rfl⟩
    exact ⟨form, hform, values, hvalues, overrides, hoverrides, validator, hcompile, rfl⟩

/-- There are none where a step fails, and it is the first such step that counts. -/
theorem findErrors_eq_error_iff :
    findErrors read schema data messages visibleOnly = .error e ↔
      FirstFailure read schema data messages e := by
  simp only [findErrors, Except.bind_eq_error, loadForm_eq_error_iff, loadForm_eq_ok_iff,
    loadJson_eq_error_iff, loadJson_eq_ok_iff, loadMessages_eq_error_iff, loadMessages_eq_ok_iff,
    Except.mapError_eq_error, Except.mapError_eq_ok]
  constructor
  · rintro (h | ⟨form, hform, h | ⟨values, hvalues, h | ⟨overrides, hoverrides, h⟩⟩⟩)
    · exact .schema h
    · exact .data hform h
    · exact .messages hform hvalues h
    · rcases h with ⟨defect, hcompile, rfl⟩ | ⟨validator, -, h⟩
      · exact .compile hform hvalues hoverrides hcompile
      · cases h
  · intro h
    cases h with
    | schema h => exact Or.inl h
    | data hform h => exact Or.inr ⟨_, hform, Or.inl h⟩
    | messages hform hvalues h => exact Or.inr ⟨_, hform, Or.inr ⟨_, hvalues, Or.inl h⟩⟩
    | compile hform hvalues hoverrides hcompile =>
      exact Or.inr ⟨_, hform, Or.inr ⟨_, hvalues, Or.inr ⟨_, hoverrides,
        Or.inl ⟨_, hcompile, rfl⟩⟩⟩⟩

/-- Either all steps succeed, or one is the first that fails. -/
theorem loads_or_firstFailure (read : Reader) (schema data : String) (messages : Option String) :
    (∃ validator values, Loads read schema data messages validator values)
      ∨ ∃ e, FirstFailure read schema data messages e := by
  cases h : findErrors read schema data messages false with
  | ok errors =>
    obtain ⟨validator, values, hloads, -⟩ := findErrors_eq_ok_iff.mp h
    exact Or.inl ⟨validator, values, hloads⟩
  | error e => exact Or.inr ⟨e, findErrors_eq_error_iff.mp h⟩

/-- How a run over the files ends.  With code 0 exactly if all steps succeed and there is no
message; it then says so in one line.  If there are messages they are listed, one to a line and
in the order of their paths, and the code is 1.  If a step fails the code is 1 as well, nothing is
printed, and the first failure is reported.  One of these is always the case. -/
structure EndsByVerdict (read : Reader) (schema data : String) (messages : Option String)
    (visibleOnly : Bool) (exit : Exit) : Prop where
  code_eq_zero_iff : exit.code = 0 ↔
    ∃ validator values, Loads read schema data messages validator values
      ∧ validator.findings visibleOnly values = []
  valid : exit.code = 0 → exit.output = "Validation result: valid\n"
  invalid : ∀ validator values, Loads read schema data messages validator values →
    validator.findings visibleOnly values ≠ [] →
      Dict.Ordered (validator.findings visibleOnly values)
        ∧ exit.code = 1
        ∧ exit.output = "Validation result: invalid\n" ++ "Errors:\n"
          ++ String.join ((validator.findings visibleOnly values).map fun (path, message) =>
            "  " ++ path ++ " - " ++ message ++ "\n")
  failed : ∀ e, FirstFailure read schema data messages e → exit = ⟨1, "", some e.message⟩
  loads_or_failed : (∃ validator values, Loads read schema data messages validator values)
    ∨ ∃ e, FirstFailure read schema data messages e

/-- What a command to validate ends with, where all steps succeed. -/
theorem runCommand_of_loads {validator : FormValidator} {values : Json}
    (hloads : Loads read schema data messages validator values) :
    runCommand read (.validate schema data messages visibleOnly) =
      if validator.findings visibleOnly values = [] then ⟨0, "Validation result: valid\n", none⟩
      else ⟨1, report (validator.findings visibleOnly values), some "validation failed"⟩ := by
  have hfind : findErrors read schema data messages visibleOnly
      = .ok (validator.findings visibleOnly values) :=
    findErrors_eq_ok_iff.mpr ⟨validator, values, hloads, rfl⟩
  simp only [runCommand, hfind]
  by_cases hnone : validator.findings visibleOnly values = []
  · rw [if_pos hnone, if_pos hnone, report, if_pos hnone]
  · rw [if_neg hnone, if_neg hnone]

/-- What it ends with where one fails: nothing is printed before all have succeeded. -/
theorem runCommand_of_firstFailure (hfailure : FirstFailure read schema data messages e) :
    runCommand read (.validate schema data messages visibleOnly) = ⟨1, "", some e.message⟩ := by
  have hfind : findErrors read schema data messages visibleOnly = .error e :=
    findErrors_eq_error_iff.mpr hfailure
  simp only [runCommand, hfind, failed]

/-- A command to validate ends as the verdict is. -/
theorem endsByVerdict_runCommand (read : Reader) (schema data : String) (messages : Option String)
    (visibleOnly : Bool) :
    EndsByVerdict read schema data messages visibleOnly
      (runCommand read (.validate schema data messages visibleOnly)) := by
  have hcases := loads_or_firstFailure read schema data messages
  have hzero : (runCommand read (.validate schema data messages visibleOnly)).code = 0 ↔
      ∃ validator values, Loads read schema data messages validator values
        ∧ validator.findings visibleOnly values = [] := by
    constructor
    · intro hcode
      -- a step that fails and a message that is found both end with another code
      rcases hcases with ⟨validator, values, hloads⟩ | ⟨e, he⟩
      · refine ⟨validator, values, hloads, ?_⟩
        by_contra hne
        rw [runCommand_of_loads hloads, if_neg hne] at hcode
        exact absurd hcode Nat.one_ne_zero
      · rw [runCommand_of_firstFailure he] at hcode
        exact absurd hcode Nat.one_ne_zero
    · rintro ⟨validator, values, hloads, hnone⟩
      rw [runCommand_of_loads hloads, if_pos hnone]
  refine ⟨hzero, ?_, ?_, fun e he => runCommand_of_firstFailure he, hcases⟩
  · intro hcode
    obtain ⟨validator, values, hloads, hnone⟩ := hzero.mp hcode
    rw [runCommand_of_loads hloads, if_pos hnone]
  · intro validator values hloads hne
    rw [runCommand_of_loads hloads, if_neg hne]
    refine ⟨validator.ordered_findings visibleOnly values, rfl, ?_⟩
    rw [report, if_neg hne]
    rfl

/-! ## Main statement -/

/-- A run that validates a data file ends as the verdict on the file is: this is so for the words
that ask for it in the usual order, whatever files they name, and for all others that are read as
asking for the same. -/
theorem run_by_verdict (read : Reader) (schema data : String) (messages : Option String)
    (visibleOnly : Bool) :
    (isValue schema = true → isValue data = true → (∀ path ∈ messages, isValue path = true) →
      EndsByVerdict read schema data messages visibleOnly
        (run read (validateWords schema data messages visibleOnly)))
    ∧ ∀ words, readCommand words = .ok (.validate schema data messages visibleOnly) →
      EndsByVerdict read schema data messages visibleOnly (run read words) := by
  have hwords : ∀ words, readCommand words = .ok (.validate schema data messages visibleOnly) →
      EndsByVerdict read schema data messages visibleOnly (run read words) := by
    intro words h
    have hrun : run read words = runCommand read (.validate schema data messages visibleOnly) := by
      rw [run, h]
    exact hrun ▸ endsByVerdict_runCommand read schema data messages visibleOnly
  exact ⟨fun hs hd hm => hwords _ (readCommand_validateWords hs hd hm), hwords⟩

end Reader

namespace Signup

/-- A form with a name that has to be given, and an empty document. -/
def files : Reader
  | "form.json" => .ok ("\x7b\"fields\": [\x7b\"name\": \"nick\", \"type\": \"text\", "
      ++ "\"required\": true, \"validationMessages\": \x7b\"required\": \"who\"\x7d\x7d]\x7d")
  | "data.json" => .ok "\x7b\x7d"
  | _ => .error "No such file or directory (os error 2)"

/-- The document of the form. -/
def formDocument : Json :=
  .object [("fields", .array [
    .object [("name", .string "nick"), ("required", .bool true), ("type", .string "text"),
      ("validationMessages", .object [("required", .string "who")])]])]

/-- A name that has to be given. -/
def nick : Field where
  info := { name := "nick", kind := .text, required := true, messages := [("required", "who")] }
  itemSchema := none
  fields := []

/-- The form of the document. -/
def form : Form where
  items := [.field nick]

theorem decode_formDocument : Form.decode formDocument = .ok form := rfl

theorem holdsForm : HoldsForm files "form.json" form :=
  ⟨formDocument, ⟨_, rfl, by cbv⟩, decode_formDocument⟩

theorem holdsJson : HoldsJson files "data.json" (.object []) := ⟨_, rfl, by cbv⟩

theorem compiles : ∃ v, form.compile [] = .ok v := ⟨_, rfl⟩

theorem findings {v : FormValidator} (h : form.compile [] = .ok v) :
    v.findings false (.object []) = [("nick", "who")] := by
  obtain rfl := Except.ok.inj h
  rfl

/-- Without a name the empty document is not valid, which the run says; with a file of messages
that is not there it says nothing but that. -/
theorem run_without_name :
    (run files (validateWords "form.json" "data.json" none false)).code = 1
    ∧ (run files (validateWords "form.json" "data.json" none false)).output
      = "Validation result: invalid\nErrors:\n  nick - who\n"
    ∧ run files (validateWords "form.json" "data.json" (some "texts.json") true)
      = ⟨1, "", some "failed to read texts.json: No such file or directory (os error 2)"⟩ := by
  obtain ⟨hplain, -⟩ := run_by_verdict files "form.json" "data.json" none false
  obtain ⟨hworded, -⟩ := run_by_verdict files "form.json" "data.json" (some "texts.json") true
  have hends := hplain (by decide) (by decide) nofun
  have hends' := hworded (by decide) (by decide) (by rintro _ ⟨⟩; decide)
  obtain ⟨v, hcompile⟩ := compiles
  have hfindings := findings hcompile
  have hloads : Loads files "form.json" "data.json" none v (.object []) :=
    ⟨form, [], holdsForm, holdsJson, rfl, hcompile⟩
  have hne : v.findings false (.object []) ≠ [] := hfindings ▸ List.cons_ne_nil _ _
  obtain ⟨-, hcode, houtput⟩ := hends.invalid v _ hloads hne
  refine ⟨hcode, ?_, hends'.failed _ (.messages holdsForm holdsJson (.json (.unreadable rfl)))⟩
  rw [houtput, hfindings]
  rfl

end Signup

end CommandLine
end FormLogic
