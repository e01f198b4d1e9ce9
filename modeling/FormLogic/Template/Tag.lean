/-
  FormLogic.Template.Tag

  Reading a template into texts and tags.

  Text runs up to the next pair of braces.  A backslash in front of a pair
  makes the pair text; of several backslashes in front of a pair one is
  dropped.  Blanks between the parts of a tag do not matter.  A template
  whose tags cannot be read is no template (`none`).

  Readers of nested values take a bound on their depth; `budget` gives one
  that no text exceeds.
-/

import FormLogic.Json.Parser
import FormLogic.Template.Syntax

namespace FormLogic
namespace Template

/-- The outcome of a reader: what was read and what is left. -/
abbrev Reader (α : Type) := List Char → Option (α × List Char)

/-! ## Characters and words -/

/-- The blanks between the parts of a tag. -/
def isSpace (c : Char) : Bool := c = ' ' || c = '\t' || c = '\n' || c = '\r'

def skipSpace (s : List Char) : List Char := s.dropWhile isSpace

/-- The characters of names. -/
def isSymbol (c : Char) : Bool :=
  c.isAlphanum || c = '_' || c = '-' || c = '$' || 0x80 ≤ c.toNat

/-- What is left behind a fixed word. -/
def after? : List Char → List Char → Option (List Char)
  | [], s => some s
  | _ :: _, [] => none
  | w :: ws, c :: s => if c = w then after? ws s else none

/-- A fixed word with blanks before it allowed. -/
def word? (w : String) (s : List Char) : Option (List Char) := after? w.toList (skipSpace s)

/-- A name. -/
def identifier : Reader String := fun s =>
  match s.takeWhile isSymbol with
  | [] => none
  | cs => some (String.ofList cs, s.dropWhile isSymbol)

/-! ## Paths -/

/-- One name of a path; in brackets any text is one. -/
def pathItem : Reader String := fun s =>
  match s with
  | '[' :: r =>
    match r.dropWhile (· ≠ ']') with
    | _ :: rest => some (String.ofList (r.takeWhile (· ≠ ']')), rest)
    | [] => none
  | s => identifier s

/-- Whether a character separates the names of a path. -/
def isPathSep (c : Char) : Bool := c = '.' || c = '/'

/-- More names of a path, each behind a separator. -/
def pathRest : Nat → List Char → List String × List Char
  | 0, s => ([], s)
  | budget + 1, s =>
    match s with
    | c :: r =>
      if isPathSep c then
        match pathItem r with
        | some (name, rest) =>
          let (names, last) := pathRest budget rest
          (name :: names, last)
        | none => ([], s)
      else ([], s)
    | [] => ([], [])

/-- The steps up at the start of a path. -/
def pathUps : Nat → List Char → Nat × List Char
  | 0, s => (0, s)
  | budget + 1, s =>
    match s with
    | '.' :: '.' :: c :: r =>
      if isPathSep c then
        let (n, rest) := pathUps budget r
        (n + 1, rest)
      else (0, s)
    | _ => (0, s)

/-- What is left behind a fixed word and a separator, the text itself if they do not stand there. -/
def skipPathWord (w : String) (s : List Char) : Bool × List Char :=
  match after? w.toList s with
  | some (c :: r) => if isPathSep c then (true, r) else (false, s)
  | _ => (false, s)

/-- A path; the name `this` stands for the value at hand and adds nothing. -/
def valuePath : Reader ValuePath := fun s =>
  let s1 := match s with
    | '.' :: '/' :: r => r
    | s => (skipPathWord "this" s).2
  let (fromRoot, s2) := skipPathWord "@root" s1
  let (isLocal, s3) : Bool × List Char := match s2 with
    | '@' :: r => (true, r)
    | r => (false, r)
  let (ups, s4) := pathUps s3.length s3
  match pathItem s4 with
  | none => none
  | some (name, s5) =>
    let (names, rest) := pathRest s5.length s5
    some (⟨fromRoot, isLocal, ups, (name :: names).filter (· ≠ "this")⟩, rest)

/-- A path with its own text. -/
def namedPath : Reader (String × ValuePath) := fun s =>
  (valuePath s).map fun (p, rest) =>
    ((String.ofList (s.take (s.length - rest.length)), p), rest)

/-! ## Literals -/

/-- Whether a name does not go on here. -/
def atWordEnd (s : List Char) : Bool := !(s.head?.any isSymbol)

/-- The text of a number as far as it is one. -/
def numberText (s : List Char) : Option (List Char × List Char) :=
  let (sign, s1) : List Char × List Char := match s with
    | '-' :: r => (['-'], r)
    | r => ([], r)
  let whole := s1.takeWhile Char.isDigit
  if whole = [] then none
  else
    let s2 := s1.dropWhile Char.isDigit
    let (point, s3) : List Char × List Char := match s2 with
      | '.' :: r => ('.' :: r.takeWhile Char.isDigit, r.dropWhile Char.isDigit)
      | r => ([], r)
    let (exponent, s4) : List Char × List Char := match s3 with
      | 'E' :: r =>
        let (minus, r1) : List Char × List Char := match r with
          | '-' :: r1 => (['-'], r1)
          | r1 => ([], r1)
        let digits := r1.takeWhile Char.isDigit
        if digits = [] then ([], s3) else ('E' :: minus ++ digits, r1.dropWhile Char.isDigit)
      | r => ([], r)
    if atWordEnd s4 then some (sign ++ whole ++ point ++ exponent, s4) else none

/-- The inside of a quoted text and what is left behind its closing quote. -/
def quotedText (quote : Char) : List Char → Option (List Char × List Char)
  | [] => none
  | '\\' :: c :: rest => (quotedText quote rest).map fun (cs, last) => ('\\' :: c :: cs, last)
  | c :: rest =>
    if c = quote then some ([], rest)
    else if c = '\\' then none
    else (quotedText quote rest).map fun (cs, last) => (c :: cs, last)

/-- The inside of a text in single quotes as one in double quotes. -/
def requote : List Char → List Char
  | '\\' :: '\'' :: rest => '\'' :: requote rest
  | '"' :: rest => '\\' :: '"' :: requote rest
  | c :: rest => c :: requote rest
  | [] => []

/-- What a JSON text denotes. -/
def jsonOf? (cs : List Char) : Option Json := (Json.parse (String.ofList cs)).toOption

mutual

/-- The text of a literal, as JSON, and what is left. -/
def literalText : Nat → List Char → Option (List Char × List Char)
  | 0, _ => none
  | budget + 1, s =>
    match s with
    | '"' :: r => (quotedText '"' r).map fun (cs, rest) => ('"' :: cs ++ ['"'], rest)
    | '\'' :: r => (quotedText '\'' r).map fun (cs, rest) => ('"' :: requote cs ++ ['"'], rest)
    | '[' :: r => (listText budget true r).map fun (cs, rest) => ('[' :: cs, rest)
    | '\x7b' :: r => (memberText budget true r).map fun (cs, rest) => ('\x7b' :: cs, rest)
    | s =>
      match numberText s with
      | some found => some found
      | none =>
        (["null", "true", "false"].findSome? fun w =>
          match after? w.toList s with
          | some rest => if atWordEnd rest then some (w.toList, rest) else none
          | none => none)

/-- The entries of a list literal up to its end. -/
def listText : Nat → Bool → List Char → Option (List Char × List Char)
  | 0, _, _ => none
  | budget + 1, first, s =>
    match skipSpace s with
    | ']' :: r => some ([']'], r)
    | ',' :: r =>
      match literalText budget (skipSpace r) with
      | some (v, rest) =>
        (listText budget false rest).map fun (cs, last) => (',' :: v ++ cs, last)
      | none => none
    | r =>
      if first then
        match literalText budget r with
        | some (v, rest) => (listText budget false rest).map fun (cs, last) => (v ++ cs, last)
        | none => none
      else none

/-- The members of an object literal up to its end. -/
def memberText : Nat → Bool → List Char → Option (List Char × List Char)
  | 0, _, _ => none
  | budget + 1, first, s =>
    let member (r : List Char) : Option (List Char × List Char) :=
      match r with
      | '"' :: q =>
        match quotedText '"' q with
        | some (name, rest) =>
          match skipSpace rest with
          | ':' :: r2 =>
            (literalText budget (skipSpace r2)).map fun (v, rest) =>
              ('"' :: name ++ ['"', ':'] ++ v, rest)
          | _ => none
        | none => none
      | _ => none
    match skipSpace s with
    | '\x7d' :: r => some (['\x7d'], r)
    | ',' :: r =>
      match member (skipSpace r) with
      | some (m, rest) =>
        (memberText budget false rest).map fun (cs, last) => (',' :: m ++ cs, last)
      | none => none
    | r =>
      if first then
        match member r with
        | some (m, rest) => (memberText budget false rest).map fun (cs, last) => (m ++ cs, last)
        | none => none
      else none

end

/-! ## Values and calls -/

/-- The words that are no arguments. -/
def isKeyword (s : List Char) : Bool :=
  ["as", "else"].any fun w =>
    match after? w.toList s with
    | some rest => atWordEnd rest
    | none => false

mutual

/-- One argument: a literal, a path, or a call in parentheses. -/
def argument : Nat → List Char → Option (Expr × List Char)
  | 0, _ => none
  | budget + 1, s =>
    if isKeyword s then none
    else
      match literalText s.length s with
      | some (text, rest) => (jsonOf? text).map fun v => (.literal v, rest)
      | none =>
        match s with
        | '(' :: r => parenthesised budget r
        | s => (valuePath s).map fun (p, rest) => (.path p, rest)

/-- A call behind its opening parenthesis. -/
def parenthesised : Nat → List Char → Option (Expr × List Char)
  | 0, _ => none
  | budget + 1, s =>
    let s := skipSpace s
    let call : Option (Expr × List Char) := do
      let (name, r) ← identifier s
      let (args, named, rest) := arguments budget r
      if args.isEmpty ∧ named.isEmpty then none else
      let rest ← word? ")" rest
      return (.call name args named, rest)
    match call with
    | some found => some found
    | none => do
      let ((name, _), r) ← namedPath s
      let rest ← word? ")" r
      return (.call name [] [], rest)

/-- Arguments, by place and by name, as many as there are. -/
def arguments : Nat → List Char → List Expr × List (String × Expr) × List Char
  | 0, s => ([], [], s)
  | budget + 1, s =>
    let r := skipSpace s
    let byName : Option (String × Expr × List Char) := do
      let (name, r1) ← identifier r
      let r2 ← word? "=" r1
      let (e, rest) ← argument budget (skipSpace r2)
      return (name, e, rest)
    match byName with
    | some (name, e, rest) =>
      let (args, named, last) := arguments budget rest
      (args, (name, e) :: named, last)
    | none =>
      match argument budget r with
      | some (e, rest) =>
        let (args, named, last) := arguments budget rest
        (e :: args, named, last)
      | none => ([], [], s)

end

/-- The names that a block gives to what it works on. -/
def binders (s : List Char) : List String × List Char :=
  let found : Option (List String × List Char) := do
    let r ← word? "as" s
    let r ← word? "|" r
    let (first, r) ← identifier (skipSpace r)
    match identifier (skipSpace r) with
    | some (second, r) =>
      let r ← word? "|" r
      return ([first, second], r)
    | none =>
      let r ← word? "|" r
      return ([first], r)
  match found with
  | some (names, rest) => (names, rest)
  | none => ([], s)

/-- A helper with its arguments and binders. -/
def blockHead : Reader Head := fun s => do
  let (name, r) ← identifier (skipSpace s)
  let (args, named, rest) := arguments r.length r
  let (names, last) := binders rest
  return (⟨name, args, named, names⟩, last)

/-- The characters of the names of snippets. -/
def isSnippetSymbol (c : Char) : Bool :=
  c.isAlphanum || c = '_' || c = '-' || c = '.' || c = '/' || 0x80 ≤ c.toNat

/-- The name of a snippet: a word, the text of a path, or a call in parentheses. -/
def snippetName : Reader SnippetName := fun s =>
  match s.takeWhile isSnippetSymbol, s with
  | [], '(' :: r => (parenthesised s.length r).map fun (e, rest) => (.computed e, rest)
  | [], s => (namedPath s).map fun ((name, _), rest) => (.fixed name, rest)
  | cs, s => some (.fixed (String.ofList cs), s.dropWhile isSnippetSymbol)

/-- A snippet's name with the arguments of its inclusion. -/
def inclusion : Reader Inclusion := fun s => do
  let (name, r) ← snippetName (skipSpace s)
  let (args, named, rest) := arguments r.length r
  return (⟨name, args, named, []⟩, rest)

/-- A lone name: a path, or a call in parentheses. -/
def loneName : Reader Tag := fun s =>
  let s := skipSpace s
  match s with
  | '(' :: r => (parenthesised s.length r).map fun (e, rest) => (.value "" e, rest)
  | s => (namedPath s).map fun ((name, p), rest) => (.value name (.path p), rest)

/-- What a plain tag shows: a helper call with arguments, or a lone name. -/
def shownWith (close : List Char → Option (Bool × List Char)) (s : List Char) :
    Option (Tag × Bool × List Char) :=
  let call : Option (Tag × Bool × List Char) := do
    let (name, r) ← identifier (skipSpace s)
    let (args, named, rest) := arguments r.length r
    if args.isEmpty ∧ named.isEmpty then none else
    let (dropAfter, last) ← close rest
    return (.call ⟨name, args, named, []⟩, dropAfter, last)
  match call with
  | some found => some found
  | none => do
    let (tag, rest) ← loneName s
    let (dropAfter, last) ← close rest
    return (tag, dropAfter, last)

/-! ## Tags -/

/-- The mark for dropping white space. -/
def dropMark (s : List Char) : Bool × List Char :=
  match skipSpace s with
  | '~' :: r => (true, r)
  | r => (false, r)

/-- The end of a tag, with its mark. -/
def tagEnd (s : List Char) : Option (Bool × List Char) :=
  let (mark, r) := dropMark s
  (word? "\x7d\x7d" r).map fun rest => (mark, rest)

/-- A tag that was read: its marks, what it does, and what is left. -/
abbrev Read := Option ((Bool × Bool × Tag) × List Char)

/-- Puts together a tag from its parts. -/
def finishTag (mark : Bool) (found : Option (Tag × Bool × List Char)) : Read :=
  found.map fun (t, dropAfter, rest) => ((mark, dropAfter, t), rest)

/-- A head followed by the end of the tag. -/
def headTag (make : Head → Tag) (s : List Char) : Option (Tag × Bool × List Char) := do
  let (head, r) ← blockHead s
  let (dropAfter, rest) ← tagEnd r
  return (make head, dropAfter, rest)

/-- A tag that divides a block: `else` or `^`, alone or with the head of a further block. -/
def dividerTag (s : List Char) : Read :=
  let (mark, r) := dropMark s
  let behind := match word? "else" r with
    | some rest => some rest
    | none => word? "^" r
  match behind with
  | none => none
  | some r =>
    match tagEnd r with
    | some (dropAfter, rest) => some ((mark, dropAfter, .otherwise none), rest)
    | none => finishTag mark (headTag (fun h => .otherwise (some h)) r)

/-- A tag between triple braces, behind its first two. -/
def tripleTag (s : List Char) : Read :=
  let closeTight (r : List Char) : Option (Bool × List Char) :=
    (word? "\x7d\x7d\x7d" r).map fun rest => (false, rest)
  let closeMarked (r : List Char) : Option (Bool × List Char) :=
    (word? "\x7d" r).bind tagEnd
  let tight : Read :=
    match s with
    | '\x7b' :: r => finishTag false (shownWith closeTight r)
    | _ => none
  match tight with
  | some found => some found
  | none =>
    let (mark, r) := dropMark s
    match skipSpace r with
    | '\x7b' :: r => finishTag mark (shownWith closeMarked r)
    | '&' :: r => finishTag mark do
      let (tag, rest) ← loneName r
      let (dropAfter, last) ← tagEnd rest
      return (tag, dropAfter, last)
    | _ => none

/-- What is left behind the first occurrence of a word. -/
def afterFirst? (w : List Char) : List Char → Option (List Char)
  | [] => if w = [] then some [] else none
  | c :: cs =>
    match after? w (c :: cs) with
    | some rest => some rest
    | none => afterFirst? w cs

/-- A comment, behind its exclamation mark. -/
def commentTag (s : List Char) : Read :=
  let long := (word? "--" s).bind (afterFirst? "--\x7d\x7d".toList)
  let rest := match long with
    | some rest => some rest
    | none => afterFirst? "\x7d\x7d".toList s
  rest.map fun rest => ((false, false, .comment), rest)

/-- An inclusion followed by the end of the tag. -/
def inclusionTag (make : Inclusion → Tag) (s : List Char) : Option (Tag × Bool × List Char) := do
  let (i, r) ← inclusion s
  let (dropAfter, rest) ← tagEnd r
  return (make i, dropAfter, rest)

/-- The tag that opens a block, behind its sign. -/
def openTag (s : List Char) : Option (Tag × Bool × List Char) :=
  match headTag .openBlock s with
  | some found => some found
  | none =>
    match skipSpace s with
    | '*' :: r => headTag .openSnippet r
    | '>' :: r => inclusionTag .openInclusion r
    | _ => none

/-- The tag that closes a block, behind its sign. -/
def closeTag (s : List Char) : Option (Tag × Bool × List Char) :=
  let s := skipSpace s
  let closing (name r : List Char) : Option (Tag × Bool × List Char) :=
    match name, tagEnd r with
    | [], _ => none
    | _, none => none
    | cs, some (dropAfter, rest) => some (.close (String.ofList cs), dropAfter, rest)
  match closing (s.takeWhile isSymbol) (s.dropWhile isSymbol) with
  | some found => some found
  | none => closing (s.takeWhile isSnippetSymbol) (s.dropWhile isSnippetSymbol)

/-- A tag marked by a sign: the head or end of a block, an inclusion, or a tag that never renders.
-/
def signedTag (s : List Char) : Read :=
  let (mark, r) := dropMark s
  match skipSpace r with
  | '#' :: r => finishTag mark (openTag r)
  | '/' :: r => finishTag mark (closeTag r)
  | '*' :: r => finishTag mark (headTag (fun _ => .unsupported) r)
  | '>' :: r => finishTag mark (inclusionTag .inclusion r)
  | _ => none

/-- The tag behind two opening braces. -/
def tagBody (s : List Char) : Read :=
  match dividerTag s with
  | some found => some found
  | none =>
    let (mark, r) := dropMark s
    match finishTag mark (shownWith tagEnd r) with
    | some found => some found
    | none =>
      match tripleTag s with
      | some found => some found
      | none =>
        match signedTag s with
        | some found => some found
        | none =>
          match s with
          | '!' :: r => commentTag r
          | _ => none

/-! ## Texts -/

/-- A pair of opening braces. -/
def openPair : List Char := ['\x7b', '\x7b']

/-- Four opening braces. -/
def openFour : List Char := ['\x7b', '\x7b', '\x7b', '\x7b']

/-- The text up to `stop`, without the backslashes that keep braces text. -/
def textRun (stop : List Char) : Nat → List Char → List Char × List Char
  | 0, s => ([], s)
  | budget + 1, s =>
    match s with
    | [] => ([], [])
    | '\\' :: r =>
      if openPair.isPrefixOf r then
        let braces := if openFour.isPrefixOf r then openFour else openPair
        let (cs, rest) := textRun stop budget (r.drop braces.length)
        (braces ++ cs, rest)
      else
        let slashes := r.takeWhile (· = '\\')
        let behind := r.dropWhile (· = '\\')
        if slashes ≠ [] ∧ openPair.isPrefixOf behind then
          let (cs, rest) := textRun stop budget behind
          (slashes ++ cs, rest)
        else
          let (cs, rest) := textRun stop budget r
          ('\\' :: cs, rest)
    | c :: r =>
      if stop.isPrefixOf s then ([], s)
      else
        let (cs, rest) := textRun stop budget r
        (c :: cs, rest)

/-- The end of a raw tag: four closing braces with an optional mark. -/
def rawEnd (s : List Char) : Option (Bool × List Char) :=
  let (mark, r) := dropMark s
  (word? "\x7d\x7d\x7d\x7d" r).map fun rest => (mark, rest)

/-- A block whose body is text up to its end, behind its first two braces. -/
def rawBlock (s : List Char) : Option (List Token × List Char) := do
  let r ← after? openPair s
  let (mark, r) := dropMark r
  let (head, r) ← blockHead r
  let (dropAfter, r) ← rawEnd r
  let (body, r) := textRun openFour r.length r
  let r ← after? openFour r
  let (endMark, r) := dropMark r
  let r ← word? "/" r
  let (name, r) ← identifier (skipSpace r)
  let (endDrop, rest) ← rawEnd r
  return ([.tag mark dropAfter (.openBlock head), .text body, .tag endMark endDrop (.close name)],
    rest)

/-- The texts and tags of a template, with at most as many turns as it has characters. -/
def tokensFrom : Nat → List Char → Option (List Token)
  | _, [] => some []
  | 0, _ :: _ => none
  | budget + 1, s =>
    match after? openPair s with
    | some r =>
      match tagBody r with
      | some ((before, behind, t), rest) =>
        (tokensFrom budget rest).map (.tag before behind t :: ·)
      | none =>
        match rawBlock r with
        | some (ts, rest) => (tokensFrom budget rest).map (ts ++ ·)
        | none => none
    | none =>
      let (cs, rest) := textRun openPair s.length s
      (tokensFrom budget rest).map (.text cs :: ·)

/-- The texts and tags of a template, `none` if one of its tags cannot be read. -/
def tokens? (template : List Char) : Option (List Token) := tokensFrom template.length template

end Template
end FormLogic
