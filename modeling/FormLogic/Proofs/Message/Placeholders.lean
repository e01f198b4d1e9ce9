/-
  FormLogic.Proofs.Message.Placeholders

  Messages of texts and placeholders.

  A template that is made of texts, without braces and backslashes, and of
  the four placeholders of messages shows the texts as they are and a value
  in the place of each placeholder.  What is put in is not looked at again:
  the template is read before any value is known, so that a label may hold
  what looks like a placeholder, or characters that other formats escape.

    * `Message.renderOrVerbatim_pieces` — such a template over the names and
      bounds of a field.
    * `Message.resolve_of_pieces` — the message of a rule that it is the
      template of.
-/

import FormLogic.Message.Catalog
import FormLogic.Proofs.Template.Placeholders

namespace FormLogic
namespace Message

/-- What a template of a message can name: the label or the name of the field, or a bound. -/
inductive Placeholder where
  | label
  | name
  | min
  | max

namespace Placeholder

/-- The word that a placeholder is written with. -/
def word : Placeholder → String
  | label => "label"
  | name => "name"
  | min => "min"
  | max => "max"

/-- The text of a bound of a rule; a rule without it has none. -/
def boundShown (params : Dict Json) (bound : String) : String :=
  ((Dict.get? params bound).map Template.valueText).getD ""

/-- What is shown for a placeholder: the label of the field, which is its name where it has none,
its name, or the bound of the rule. -/
def shown (field : FieldInfo) (params : Dict Json) : Placeholder → String
  | label => field.label.getD field.name
  | name => field.name
  | min => boundShown params "min"
  | max => boundShown params "max"

end Placeholder

/-- A piece of a template: a text, or a placeholder. -/
inductive Piece where
  | literal (text : String)
  | placeholder (p : Placeholder)

namespace Piece

/-- How a piece is written: a placeholder between double braces. -/
def source : Piece → String
  | literal text => text
  | placeholder p => "\x7b\x7b" ++ p.word ++ "\x7d\x7d"

/-- A text has no braces and no backslashes. -/
def IsPlain : Piece → Prop
  | literal text => ∀ c ∈ text.toList, c ≠ '\x7b' ∧ c ≠ '\x7d' ∧ c ≠ '\\'
  | placeholder _ => True

instance : DecidablePred IsPlain
  | literal text => List.decidableBAll _ text.toList
  | placeholder _ => .isTrue trivial

/-- What is shown of a piece. -/
def shown (field : FieldInfo) (params : Dict Json) : Piece → String
  | literal text => text
  | placeholder p => p.shown field params

/-- A piece as a part of a template. -/
def part : Piece → Template.Part
  | literal text => .text text
  | placeholder p => .value p.word

end Piece

variable {overrides : MessageOverrides} {key : RuleKey} {field : FieldInfo} {params : Dict Json}

theorem isWord_word (p : Placeholder) : Template.IsWord p.word := by
  cases p <;>
    exact ⟨by decide, List.all_eq_true.mp (by decide), by decide, by decide, by decide⟩

/-- A word refers to what is to be shown for it. -/
theorem memberShown_word (p : Placeholder) :
    Template.memberShown (Dict.insert (Dict.insert params "name" (.string field.name)) "label"
      (.string field.displayLabel)) p.word = p.shown field params := by
  cases p with
  | label => simp [Template.memberShown, Placeholder.word, Dict.get?_insert_self, Placeholder.shown,
      Template.valueText, FieldInfo.displayLabel]
  | name => simp [Template.memberShown, Placeholder.word, Dict.get?_insert_self,
      Dict.get?_insert_of_ne, Placeholder.shown, Template.valueText]
  | min | max => simp [Template.memberShown, Placeholder.word, Dict.get?_insert_of_ne,
      Placeholder.shown, Placeholder.boundShown]

/-- A template of pieces shows its texts, with the values in the place of the placeholders. -/
theorem renderOrVerbatim_pieces {pieces : List Piece} (h : ∀ p ∈ pieces, p.IsPlain) :
    renderOrVerbatim (context field params) (String.join (pieces.map Piece.source))
      = String.join (pieces.map (Piece.shown field params)) := by
  have hplain : ∀ p ∈ pieces.map Piece.part, p.IsPlain := by
    intro q hq
    obtain ⟨p, hp, rfl⟩ := List.mem_map.mp hq
    cases p with
    | literal text => exact h _ hp
    | placeholder p => exact isWord_word p
  have hsource : String.join (pieces.map Piece.source)
      = Template.sourceOf (pieces.map Piece.part) := by
    rw [Template.sourceOf, List.map_map]
    exact congrArg String.join (List.map_congr_left fun p _ => by cases p <;> rfl)
  have hshown : ∀ p : Piece, Template.Part.shown (Template.memberShown (Dict.insert (Dict.insert
      params "name" (.string field.name)) "label" (.string field.displayLabel))) p.part
        = p.shown field params := by
    intro p
    cases p with
    | literal text => rfl
    | placeholder p => exact memberShown_word p
  rw [renderOrVerbatim, context, hsource, Template.renderOver?_parts _ hplain, Option.getD_some,
    Template.shownOf, List.map_map]
  exact congrArg String.join (List.map_congr_left fun p _ => hshown p)

/-! ## Main statement -/

/-- A message whose template is made of texts without braces and backslashes and of placeholders,
in any number and order, is made of the same texts, with the label, the name and the bounds in the
place of the placeholders. -/
theorem resolve_of_pieces {pieces : List Piece} (h : ∀ p ∈ pieces, p.IsPlain)
    (ht : template overrides key field = String.join (pieces.map Piece.source)) :
    resolve overrides key field params = String.join (pieces.map (Piece.shown field params)) := by
  rw [resolve, ht, renderOrVerbatim_pieces h]

end Message

namespace Cinema

/-- An age whose label looks like a template, and whose message for the lower bound names all that
can be named. -/
def age : FieldInfo where
  name := "age"
  kind := .number
  label := some "\x7b\x7bmin\x7d\x7d <&\">"
  messages := [("min",
    "\x7b\x7blabel\x7d\x7d (\x7b\x7bname\x7d\x7d):\n \x7b\x7bmin\x7d\x7d-\x7b\x7bmax\x7d\x7d")]

/-- The pieces of the message. -/
def pieces : List Message.Piece :=
  [.placeholder .label, .literal " (", .placeholder .name, .literal "):\n ", .placeholder .min,
    .literal "-", .literal "", .placeholder .max]

/-- The label is inserted as it is, and there is no upper bound. -/
theorem label_inserted_verbatim : (∀ p ∈ pieces, p.IsPlain)
    ∧ Message.template [] .min age = String.join (pieces.map Message.Piece.source)
    ∧ Message.resolve [] .min age (Message.bound "min" (Double.ofInt 18))
      = "\x7b\x7bmin\x7d\x7d <&\"> (age):\n 18-" := by
  have hplain : ∀ p ∈ pieces, p.IsPlain := by decide
  have htemplate : Message.template [] .min age
      = String.join (pieces.map Message.Piece.source) := by decide
  refine ⟨hplain, htemplate, ?_⟩
  rw [Message.resolve_of_pieces hplain htemplate]
  decide +kernel

end Cinema
end FormLogic
