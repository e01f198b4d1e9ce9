/-
  FormLogic.Template.Render

  Rendering a template over a document.  Values are inserted as they are; a
  missing one gives no text.  Paths are looked up from the innermost scope
  outward; loops open scopes with loop variables, and blocks can bind names.

  Bodies are kept as snippets in the order in which they are met, and an
  inclusion renders the one that was kept last under its name, or its own
  body if there is none.

  A template that is not well-formed, calls an unknown helper, leaves out an
  argument, indexes a list by a name, or includes what was not kept does not
  render (`none`).

  Specification, section 6.3: the renderer does not escape what it inserts.
-/

import FormLogic.Condition.Compare
import FormLogic.Path
import FormLogic.Template.Tree

namespace FormLogic
namespace Template

/-! ## Scopes -/

/-- What names refer to inside a block. -/
structure Scope where
  value : Json
  locals : Dict Json := []
  bound : List (String × Json) := []

/-- The document and the scopes, innermost first. -/
structure Scopes where
  root : Json
  inner : List Scope

/-- The value at the end of a list of names; missing members are null. -/
def descend (v : Json) : List String → Option Json
  | [] => some v
  | name :: names =>
    match v with
    | .array items =>
      match Path.position? name with
      | none => none
      | some i => descend (items[i]?.getD .null) names
    | .object members => descend ((Dict.get? members name).getD .null) names
    | _ => descend .null names

namespace Scopes

/-- The scope that many steps out; beyond the last one the last one. -/
def out (s : Scopes) (ups : Nat) : Scope :=
  match s.inner[ups]? with
  | some scope => scope
  | none => s.inner.getLast?.getD ⟨s.root, [], []⟩

/-- The value that a block has bound to a name. -/
def bound? (s : Scopes) (name : String) : Option Json :=
  s.inner.findSome? fun scope => Dict.get? scope.bound name

/-- The value of a path. -/
def lookup (s : Scopes) (p : ValuePath) : Option Json :=
  if p.fromRoot then descend s.root p.names
  else
    match p.isLocal, p.names with
    | true, name :: _ =>
      some (((s.inner[p.ups]?).bind fun scope => Dict.get? scope.locals name).getD .null)
    | true, [] => some (s.out 0).value
    | false, names =>
      match names.head?.bind s.bound? with
      | some v => descend v (if p.ups = 0 then names.tail else names)
      | none => descend (s.out p.ups).value names

/-- Opens a scope. -/
def push (s : Scopes) (scope : Scope) : Scopes := { s with inner := scope :: s.inner }

end Scopes

/-! ## Values -/

mutual

/-- The text of a value: entries of a list in brackets, an object by a fixed word. -/
def valueText : Json → String
  | .null => ""
  | .bool b => if b then "true" else "false"
  | .number n => n.text
  | .string s => s
  | .array [] => "[]"
  | .array (x :: xs) => "[" ++ valueText x ++ valueTexts xs ++ "]"
  | .object _ => "[object]"

def valueTexts : List Json → String
  | [] => ""
  | x :: xs => ", " ++ valueText x ++ valueTexts xs

end

/-- The least count of units that a number in full precision has. -/
def normalUnits : Nat := Nat.pow 2 52

/-- Whether a value counts as true.  With `zeroCounts` every number does. -/
def truthy (zeroCounts : Bool) : Json → Bool
  | .null => false
  | .bool b => b
  | .number n => zeroCounts || normalUnits ≤ n.toDouble.units
  | .string s => s ≠ ""
  | .array items => !items.isEmpty
  | .object members => !members.isEmpty

/-- The exact order of two numbers. -/
def compareNumbers (a b : Number) : Ordering :=
  let units : Number → Int
    | .int n => n * unitsInOne
    | .double d => d.value
  compare (units a) (units b)

/-- The order of a number and the number that a text stands for. -/
def compareWithText (a : Number) (text : String) : Option Ordering :=
  (Extended.ofText? text).map fun x =>
    let y := Extended.finite a.toDouble
    if y.lt x then .lt else if x.lt y then .gt else .eq

/-- The order of two values, if they have one. -/
def compareValues : Json → Json → Option Ordering
  | .number a, .number b => some (compareNumbers a b)
  | .string a, .string b => some (compare a b)
  | .bool a, .bool b => some (compare a.toNat b.toNat)
  | .number a, .string b => compareWithText a b
  | .string a, .number b => (compareWithText b a).map Ordering.swap
  | _, _ => none

/-- The count that a value has. -/
def lengthOf : Json → Nat
  | .array items => items.length
  | .object members => members.length
  | .string s => s.utf8ByteSize
  | _ => 0

/-! ## Helpers -/

/-- The helpers that compute a value from two others. -/
def binaryHelper? (name : String) (x y : Json) : Option Json :=
  match name with
  | "eq" => some (.bool (x.same y))
  | "ne" => some (.bool !(x.same y))
  | "gt" => some (.bool (compareValues x y == some .gt))
  | "gte" => some (.bool ((compareValues x y).any (· ≠ .lt)))
  | "lt" => some (.bool (compareValues x y == some .lt))
  | "lte" => some (.bool ((compareValues x y).any (· ≠ .gt)))
  | "and" => some (.bool (truthy false x && truthy false y))
  | "or" => some (.bool (truthy false x || truthy false y))
  | "lookup" =>
    some <| match x, y with
      | .array items, .number (.int n) => if n < 0 then .null else items[n.toNat]?.getD .null
      | .object members, .string k => (Dict.get? members k).getD .null
      | _, _ => .null
  | _ => none

/-- The helpers that compute a value from one other. -/
def unaryHelper? (name : String) (x : Json) : Option Json :=
  match name with
  | "not" => some (.bool !(truthy false x))
  | "len" => some (.number (.int (lengthOf x)))
  | _ => none

/-- The value that a helper computes; `none` if it computes none from these arguments. -/
def valueHelper? (name : String) (args : List Json) : Option Json :=
  match args with
  | [] => none
  | x :: rest =>
    match unaryHelper? name x with
    | some v => some v
    | none =>
      match rest with
      | [] => none
      | y :: _ => binaryHelper? name x y

/-- The helpers that compute values. -/
def valueHelpers : List String :=
  ["lookup", "eq", "ne", "gt", "gte", "lt", "lte", "and", "or", "not", "len"]

/-- The helpers that decide what becomes of a body. -/
def blockHelpers : List String := ["if", "unless", "each", "with", "raw", "log"]

/-- Whether a name calls a helper. -/
def isHelper (name : String) : Bool := name ∈ valueHelpers || name ∈ blockHelpers

/-- The levels that a log line can have. -/
def logLevels : List String := ["off", "error", "warn", "info", "debug", "trace"]

/-- Whether a helper accepts its arguments when there is no body: the text is then empty. -/
def emptyHelper? (name : String) (args : List Json) (named : List (String × Json)) : Option Unit :=
  match name with
  | "raw" => some ()
  | "log" =>
    match Dict.get? named "level" with
    | some (.string level) =>
      if logLevels.tail.contains (level.map Char.toLower) then some () else none
    | _ => some ()
  | "if" => if args.isEmpty then none else some ()
  | "unless" => if args.isEmpty then none else some ()
  | "each" => if args.isEmpty then none else some ()
  | "with" => if args.isEmpty then none else some ()
  | _ => none

/-- The value of a call that has no body. -/
def callValue (name : String) (args : List Json) (named : List (String × Json)) : Option Json :=
  if name ∈ valueHelpers then valueHelper? name args
  else (emptyHelper? name args named).map fun _ => .string ""

/-! ## Evaluation -/

mutual

/-- The value of an expression. -/
def eval (s : Scopes) : Expr → Option Json
  | .literal v => some v
  | .path p => s.lookup p
  | .call name args named =>
    match evalAll s args, evalNamed s named with
    | some vs, some ns => callValue name vs ns
    | _, _ => none

def evalAll (s : Scopes) : List Expr → Option (List Json)
  | [] => some []
  | e :: es =>
    match eval s e, evalAll s es with
    | some v, some vs => some (v :: vs)
    | _, _ => none

def evalNamed (s : Scopes) : List (String × Expr) → Option (List (String × Json))
  | [] => some []
  | (name, e) :: es =>
    match eval s e, evalNamed s es with
    | some v, some vs => some ((name, v) :: vs)
    | _, _ => none

end

/-! ## Snippets -/

/-- The snippets kept so far, latest first. -/
abbrev Kept := List (String × List Element)

/-- The text of a part, with the snippets kept behind it. -/
abbrev Rendered := Option (List Char × Kept)

/-- Rendering the body of a snippet, given the bodies handed to the inclusions under way,
innermost first. -/
abbrev Including := Scopes → List (List Element) → Kept → List Element → Rendered

/-- Keeps a body under the name that its head gives. -/
def keep? (s : Scopes) (kept : Kept) (head : Head) (body : List Element) : Option Kept :=
  if head.name = "inline" then
    match evalAll s head.args, evalNamed s head.named with
    | some (.string name :: _), some _ => some ((name, body) :: kept)
    | _, _ => none
  else none

/-- Keeps the snippets that stand in a body. -/
def keepAll? (s : Scopes) (kept : Kept) : List Element → Option Kept
  | [] => some kept
  | .snippet head body :: es => (keep? s kept head body).bind fun kept => keepAll? s kept es
  | .unsupported :: _ => none
  | _ :: es => keepAll? s kept es

/-- The name under which an inclusion finds the body handed to the one around it. -/
def handedName : String := "@partial-block"

/-- The snippet that an inclusion names: the body handed to the inclusion around it, one that was
kept, or the inclusion's own body. -/
def snippet? (bodies : List (List Element)) (kept : Kept) (name : String)
    (body : Option (List Element)) : Option (List Element) :=
  if name = handedName then bodies.head?
  else match kept.lookup name with
    | some es => some es
    | none => body

/-- The bodies at hand inside a snippet. -/
def bodiesWithin (bodies : List (List Element)) (name : String) (body : Option (List Element)) :
    List (List Element) :=
  let outer := if name = handedName then bodies.tail else bodies
  body.toList ++ outer

/-- The scopes of a snippet: a path given to it is all it sees, and values given by name are added
to the members of what it works on. -/
def snippetScopes (s : Scopes) (args : List Expr) (values : List Json)
    (named : List (String × Json)) : Scopes :=
  let own := match args, values with
    | .path _ :: _, .null :: _ => none
    | .path p :: _, v :: _ => if p.isLocal then none else some v
    | _, _ => none
  let extended (v : Json) : Json :=
    .object (named.foldl (fun d m => Dict.insert d m.1 m.2) (v.members?.getD []))
  match own with
  | some v => { s with inner := [{ value := if named.isEmpty then v else extended v }] }
  | none =>
    if named.isEmpty then s
    else s.push { s.out 0 with value := extended (values.head?.getD (s.out 0).value) }

/-- A text whose further lines start with an indent. -/
def indented (indent : List Char) : List Char → List Char
  | [] => []
  | '\n' :: c :: cs => '\n' :: (indent ++ indented indent (c :: cs))
  | c :: cs => c :: indented indent cs

/-- The text of a name. -/
def nameText? (s : Scopes) : SnippetName → Option String
  | .fixed name => some name
  | .computed e => (eval s e).map valueText

/-! ## Rendering -/

/-- The names that a loop binds: the value first, then its key or position. -/
def bindLoop (binders : List String) (key value : Json) : List (String × Json) :=
  match binders with
  | [] => []
  | [v] => [(v, value)]
  | v :: k :: _ => [(v, value), (k, key)]

/-- The name that a block binds to its one value; a pair of names binds nothing. -/
def bindWhole (binders : List String) (value : Json) : List (String × Json) :=
  match binders with
  | [v] => [(v, value)]
  | _ => []

/-- The scope of one turn of a loop. -/
def loopScope (binders : List String) (count index : Nat) (name : Option String) (value : Json) :
    Scope :=
  let position := Json.number (.int index)
  let key := match name with
    | some k => Json.string k
    | none => position
  { value
    locals := Dict.ofList ([("first", .bool (index = 0)), ("last", .bool (index + 1 = count)),
      ("index", position)] ++ (name.map fun k => ("key", Json.string k)).toList)
    bound := bindLoop binders key value }

/-- The scopes of all turns of a loop over a value; `none` if there is nothing to loop over. -/
def loopScopes? (binders : List String) : Json → Option (List Scope)
  | .array items =>
    some (items.zipIdx.map fun p => loopScope binders items.length p.2 none p.1)
  | .object members =>
    some (members.zipIdx.map fun p => loopScope binders members.length p.2 (some p.1.1) p.1.2)
  | _ => none

mutual

/-- The text of an element. -/
def render (including : Including) (s : Scopes) (bodies : List (List Element)) (kept : Kept) :
    Element → Rendered
  | .text cs => some (cs, kept)
  | .value name e =>
    (if isHelper name then callValue name [] [] else eval s e).map fun v =>
      ((valueText v).toList, kept)
  | .call head =>
    match evalAll s head.args, evalNamed s head.named with
    | some args, some named =>
      (callValue head.name args named).map fun v => ((valueText v).toList, kept)
    | _, _ => none
  | .unsupported => none
  | .snippet head body => (keep? s kept head body).map fun kept => ([], kept)
  | .inclusion i body =>
    match nameText? s i.name, evalAll s i.args, evalNamed s i.named with
    | some name, some args, some named =>
      match keepAll? s kept (body.getD []) with
      | none => none
      | some kept =>
        match snippet? bodies kept name body with
        | none => none
        | some es =>
          (including (snippetScopes s i.args args named) (bodiesWithin bodies name body) kept es).map
            fun (cs, kept) => (indented i.indent cs, kept)
    | _, _, _ => none
  | .block head body inverse =>
    match evalAll s head.args, evalNamed s head.named with
    | some args, some named =>
      let otherwise (_ : Unit) : Rendered :=
        match inverse with
        | some es => renderAll including s bodies kept es
        | none => some ([], kept)
      let zeroCounts := match Dict.get? named "includeZero" with
        | some (.bool b) => b
        | _ => false
      match head.name, args with
      | "if", v :: _ =>
        if truthy zeroCounts v then renderAll including s bodies kept body else otherwise ()
      | "unless", v :: _ =>
        if truthy zeroCounts v then otherwise () else renderAll including s bodies kept body
      | "with", v :: _ =>
        if truthy false v then
          renderAll including (s.push { value := v, bound := bindWhole head.binders v }) bodies kept
            body
        else otherwise ()
      | "each", v :: _ =>
        match loopScopes? head.binders v with
        | none => otherwise ()
        | some [] => otherwise ()
        | some turns =>
          turns.foldlM (fun (cs, kept) scope =>
            (renderAll including (s.push scope) bodies kept body).map fun (more, kept) =>
              (cs ++ more, kept)) ([], kept)
      | "raw", _ => renderAll including s bodies kept body
      | name, args => (callValue name args named).map fun v => ((valueText v).toList, kept)
    | _, _ => none

/-- The texts of a list of elements, one after the other. -/
def renderAll (including : Including) (s : Scopes) (bodies : List (List Element)) (kept : Kept) :
    List Element → Rendered
  | [] => some ([], kept)
  | e :: es =>
    match render including s bodies kept e with
    | none => none
    | some (a, kept) =>
      match renderAll including s bodies kept es with
      | none => none
      | some (b, kept) => some (a ++ b, kept)

end

/-- Rendering with so many inclusions inside one another at most. -/
def renderWithin : Nat → Including
  | 0 => fun _ _ _ _ => none
  | depth + 1 => renderAll (renderWithin depth)

/-- The number of inclusions that may stand inside one another. -/
def maxInclusions : Nat := 256

/-- The text of a template over a document, `none` if it does not render. -/
def renderOver? (document : Json) (template : String) : Option String := do
  let es ← elements? template.toList
  let (text, _) ← renderWithin maxInclusions ⟨document, [⟨document, [], []⟩]⟩ [] [] es
  return String.ofList text

end Template
end FormLogic
