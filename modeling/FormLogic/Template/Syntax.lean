/-
  FormLogic.Template.Syntax

  Message templates: text with tags between double braces.  A tag shows a
  value, calls a helper, opens, divides and closes a block, or keeps a body
  as a snippet and includes it elsewhere.

    * `Expr` — values in tags: literals, paths, and helper calls.
    * `Tag` and `Token` — a template as a flat list of texts and tags.
    * `Element` — a template as a tree, blocks holding their bodies.

  Specification, section 3 (validation messages): placeholders in double braces,
  of a template language with blocks, helpers and partials.
-/

import FormLogic.Json.Basic

namespace FormLogic
namespace Template

/-! ## Values -/

/-- A path to a value: from the root or from an enclosing scope, or the name of a loop variable. -/
structure ValuePath where
  fromRoot : Bool := false
  isLocal : Bool := false
  ups : Nat := 0
  names : List String := []
deriving DecidableEq, Repr

/-- A value in a tag. -/
inductive Expr where
  | literal (v : Json)
  | path (p : ValuePath)
  | call (name : String) (args : List Expr) (named : List (String × Expr))

/-- A helper with its arguments and the names that its body can use. -/
structure Head where
  name : String
  args : List Expr := []
  named : List (String × Expr) := []
  binders : List String := []

/-- What an inclusion names its snippet by: a fixed name, or a call that computes one. -/
inductive SnippetName where
  | fixed (name : String)
  | computed (e : Expr)

/-- The inclusion of a snippet: what it works on, and the blanks that its further lines start with.
-/
structure Inclusion where
  name : SnippetName
  args : List Expr := []
  named : List (String × Expr) := []
  indent : List Char := []

/-! ## Flat form -/

/-- What a tag does. -/
inductive Tag where
  | value (name : String) (e : Expr)
  | call (head : Head)
  | openBlock (head : Head)
  | openSnippet (head : Head)
  | openInclusion (i : Inclusion)
  | inclusion (i : Inclusion)
  | otherwise (head : Option Head)
  | close (name : String)
  | comment
  | unsupported

/-- Whether a tag takes its line with it when it stands alone there. -/
def Tag.ownsLine : Tag → Bool
  | .openBlock _ => true
  | .openSnippet _ => true
  | .openInclusion _ => true
  | .inclusion _ => true
  | .otherwise _ => true
  | .close _ => true
  | .comment => true
  | _ => false

/-- Whether the blanks before a tag that stands alone on its line stay: they indent what is
included. -/
def Tag.keepsIndent : Tag → Bool
  | .inclusion _ => true
  | _ => false

/-- A text, or a tag with its marks for dropping white space before and after it. -/
inductive Token where
  | text (chars : List Char)
  | tag (dropBefore dropAfter : Bool) (t : Tag)

/-! ## Tree -/

/-- A part of a template. -/
inductive Element where
  | text (chars : List Char)
  | value (name : String) (e : Expr)
  | call (head : Head)
  | block (head : Head) (body : List Element) (inverse : Option (List Element))
  | snippet (head : Head) (body : List Element)
  | inclusion (i : Inclusion) (body : Option (List Element))
  | unsupported

end Template
end FormLogic
