/-
  FormLogic.Proofs.Pattern.Email

  The pattern of e-mail addresses is one that can be searched for.

  The sets in it are put in order by sorting, which the reader of patterns
  is not to be run through as a whole.  So the class in brackets is read on
  its own (`bracketed_address`), and the pattern is then read one part after
  the other.
-/

import Mathlib.Data.List.Permutation
import FormLogic.Pattern.Parser
import FormLogic.Validation.Field

namespace FormLogic
namespace Pattern

/-! ## Reading one part -/

section Body

variable {n : Nat} {names : List (List Char)} {g : Group} {around : List Group}
  {rest : List Char}

/-- A part that is no group and no repetition is put behind the others. -/
theorem body_part {c : Char} {cs : List Char} {p : Piece}
    (hc : c ∉ ['(', ')', '|', '?', '*', '+', '\x7b']) (h : part {} (c :: cs) = some (p, rest)) :
    body (n + 1) ⟨{}, names, g, around⟩ (c :: cs) = body n ⟨{}, names, g.push p, around⟩ rest := by
  simp only [List.mem_cons, List.not_mem_nil, or_false, not_or] at hc
  obtain ⟨h1, h2, h3, h4, h5, h6, h7⟩ := hc
  simp [body, Flags.skip, h1, h2, h3, h4, h5, h6, h7, h]

/-- A plus sign repeats the part before it. -/
theorem body_plus {p : Piece} {ps bs : List Piece} {after : Flags} {keeps : Bool} {c : Char}
    (hp : p.repeatable = true) (hc : c ≠ '?') :
    body (n + 1) ⟨{}, names, ⟨p :: ps, bs, after, keeps⟩, around⟩ ('+' :: c :: rest)
      = body n ⟨{}, names,
          ⟨⟨.repeated p.pattern 1 none, p.height + 1, true⟩ :: ps, bs, after, keeps⟩, around⟩
          (c :: rest) := by
  simp [body, Flags.skip, Progress.repeat?, Group.repeatLast?, hp, dropLazy, hc]

end Body

/-! ## The parts of the pattern -/

/-- The characters that are neither blank nor the at sign. -/
def addressChars : CharSet :=
  [(0, 8), (14, 31), (33, 63), (65, 132), (134, 159), (161, 5759), (5761, 8191), (8203, 8231),
    (8234, 8238), (8240, 8286), (8288, 12287), (12289, 0x10ffff)]

/-- One or more characters that are neither blank nor the at sign. -/
def addressPart : Pattern := .repeated (.chars addressChars) 1 none

/-- The pattern of e-mail addresses: three parts with an at sign and a dot between them. -/
def emailShape : Pattern :=
  .seq (.assertion .textStart) <| .seq addressPart <| .seq (.chars [(0x40, 0x40)]) <|
    .seq addressPart <| .seq (.chars [(0x2e, 0x2e)]) <| .seq addressPart <| .assertion .textEnd

theorem bracketed_address (rest : List Char) :
    bracketed {} ('^' :: '\\' :: 's' :: '@' :: ']' :: rest) = some ((addressChars, 2), rest) := by
  cbv

theorem part_address (rest : List Char) :
    part {} ('[' :: '^' :: '\\' :: 's' :: '@' :: ']' :: rest)
      = some (⟨.chars addressChars, 2, true⟩, rest) := by
  rw [part, bracketed_address]
  rfl

/-- The parts of the pattern, the last one first. -/
def emailPieces : List Piece :=
  [⟨.assertion .textEnd, 0, true⟩, ⟨addressPart, 3, true⟩, ⟨.chars [(0x2e, 0x2e)], 0, true⟩,
    ⟨addressPart, 3, true⟩, ⟨.chars [(0x40, 0x40)], 0, true⟩, ⟨addressPart, 3, true⟩,
    ⟨.assertion .textStart, 0, true⟩]

theorem toList_emailPattern : FieldValidator.emailPattern.toList =
    ['^', '[', '^', '\\', 's', '@', ']', '+', '@', '[', '^', '\\', 's', '@', ']', '+',
      '\\', '.', '[', '^', '\\', 's', '@', ']', '+', '$'] := rfl

theorem body_emailPattern :
    body 27 {} FieldValidator.emailPattern.toList
      = some { group := { pieces := emailPieces } } := by
  rw [toList_emailPattern]
  -- the caret, then each part of the address up to the sign behind it
  rw [body_part (by decide) rfl]
  rw [Group.push, body_part (by decide) (part_address _), Group.push, body_plus rfl (by decide)]
  rw [body_part (by decide) rfl]
  rw [Group.push, body_part (by decide) (part_address _), Group.push, body_plus rfl (by decide)]
  rw [body_part (by decide) rfl]
  rw [Group.push, body_part (by decide) (part_address _), Group.push, body_plus rfl (by decide)]
  rw [body_part (by decide) rfl]
  rfl

theorem weight_emailShape_le : emailShape.weight ≤ weightLimit := by decide +kernel

/-- The pattern of e-mail addresses is read, and as this one. -/
theorem read_emailPattern : PatternReader.read FieldValidator.emailPattern = .ok emailShape := by
  have hbody := body_emailPattern
  have hheight : (Group.whole { pieces := emailPieces }).height ≤ depthLimit := by decide
  have hpattern : (Group.whole { pieces := emailPieces }).pattern = emailShape := rfl
  have hlength : FieldValidator.emailPattern.toList.length + 1 = 27 := rfl
  change ofText FieldValidator.emailPattern = .ok emailShape
  rw [ofText]
  simp only [hlength, hbody, List.isEmpty_nil, if_true, hheight, hpattern, weight_emailShape_le,
    decide_true, Bool.and_self]

end Pattern
end FormLogic
