/-
  FormLogic.Template.Tree

  From the flat list of texts and tags to the tree: every block must be
  closed under the name it was opened with, and can be divided, finally by a
  plain divider and before that by any number of heads of further blocks,
  each standing in what remains when the one before it does not apply.  A
  body that is kept or handed to an inclusion is not divided.
-/

import FormLogic.Template.Layout

namespace FormLogic
namespace Template

/-- What a block was opened for. -/
inductive Opening where
  | helper (head : Head) (done : List (Head × List Element)) (inInverse : Bool)
  | snippet (head : Head)
  | inclusion (i : Inclusion)

/-- A block that is still open: its name, the elements before it, and for a helper the branches
completed and the head of the current one. -/
structure OpenBlock where
  name : String
  outer : List Element
  opening : Opening

/-- Nests the branches of a block: each further one in the inverse of the one before. -/
def nestBranches (inverse : Option (List Element)) : List (Head × List Element) → Option (List Element)
  | [] => inverse
  | (head, body) :: rest => some [.block head body (nestBranches inverse rest)]

/-- The elements that a closed block stands for. -/
def closeBlock (opening : Opening) (body : List Element) : List Element :=
  match opening with
  | .helper _ done true => (nestBranches (some body) done.reverse).getD []
  | .helper head done false => (nestBranches none ((head, body) :: done).reverse).getD []
  | .snippet head => [.snippet head body]
  | .inclusion i => [.inclusion i (some body)]

/-- The name that closes an inclusion with a body; a computed one has none. -/
def closingName : SnippetName → String
  | .fixed name => name
  | .computed _ => ""

/-- Builds the tree, given the open blocks and the elements of the current body, latest first. -/
def build (blocks : List OpenBlock) (current : List Element) : List Token → Option (List Element)
  | [] => if blocks.isEmpty then some current.reverse else none
  | .text cs :: rest => build blocks (.text cs :: current) rest
  | .tag _ _ t :: rest =>
    match t with
    | .value name e => build blocks (.value name e :: current) rest
    | .call head => build blocks (.call head :: current) rest
    | .comment => build blocks current rest
    | .unsupported => build blocks (.unsupported :: current) rest
    | .inclusion i => build blocks (.inclusion i none :: current) rest
    | .openBlock head => build (⟨head.name, current, .helper head [] false⟩ :: blocks) [] rest
    | .openSnippet head => build (⟨head.name, current, .snippet head⟩ :: blocks) [] rest
    | .openInclusion i => build (⟨closingName i.name, current, .inclusion i⟩ :: blocks) [] rest
    | .otherwise next =>
      match blocks with
      | ⟨name, before, .helper head done false⟩ :: outer =>
        let done := (head, current.reverse) :: done
        match next with
        | none => build (⟨name, before, .helper head done true⟩ :: outer) [] rest
        | some head => build (⟨name, before, .helper head done false⟩ :: outer) [] rest
      | _ => none
    | .close name =>
      match blocks with
      | [] => none
      | b :: outer =>
        if b.name = name then
          build outer ((closeBlock b.opening current.reverse).reverse ++ b.outer) rest
        else none

/-- The tree of a template, `none` if it is not well-formed. -/
def elements? (template : List Char) : Option (List Element) :=
  (tokens? template).bind fun ts => build [] [] (layout ts)

end Template
end FormLogic
