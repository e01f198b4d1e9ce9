/-
  FormLogic.Text.Utf8

  Texts as bytes.  Reading bytes that spell no text puts a replacement
  character for each longest part that could have begun a character.
-/

namespace FormLogic
namespace Text

/-! ## Writing -/

/-- The bytes of a list of characters. -/
def utf8 (cs : List Char) : List UInt8 := cs.flatMap String.utf8EncodeChar

/-! ## Reading -/

/-- The character put for bytes that spell none. -/
def replacement : Char := '\ufffd'

/-- A character of which some bytes were read: its value so far, how many bytes it still needs,
and the range of the next one. -/
structure Partial where
  value : Nat
  needs : Nat
  low : Nat
  high : Nat

/-- What a byte begins: a character of its own, a longer one, or nothing. -/
def beginChar (b : UInt8) : List Char × Option Partial :=
  let n := b.toNat
  if n < 0x80 then ([Char.ofNat n], none)
  else if n < 0xc2 then ([replacement], none)
  else if n < 0xe0 then ([], some ⟨n - 0xc0, 1, 0x80, 0xbf⟩)
  else if n < 0xf0 then
    ([], some ⟨n - 0xe0, 2, if n = 0xe0 then 0xa0 else 0x80, if n = 0xed then 0x9f else 0xbf⟩)
  else if n < 0xf5 then
    ([], some ⟨n - 0xf0, 3, if n = 0xf0 then 0x90 else 0x80, if n = 0xf4 then 0x8f else 0xbf⟩)
  else ([replacement], none)

/-- What a byte adds to a character that is partly read. -/
def continueChar (p : Partial) (b : UInt8) : List Char × Option Partial :=
  let n := b.toNat
  if p.low ≤ n ∧ n ≤ p.high then
    let value := p.value * 64 + (n - 0x80)
    if p.needs = 1 then ([Char.ofNat value], none) else ([], some ⟨value, p.needs - 1, 0x80, 0xbf⟩)
  else
    let (out, next) := beginChar b
    (replacement :: out, next)

/-- The characters that bytes spell, the first of them perhaps partly read. -/
def readFrom (partly : Option Partial) : List UInt8 → List Char
  | [] => if partly.isSome then [replacement] else []
  | b :: bs =>
    let (out, next) :=
      match partly with
      | none => beginChar b
      | some p => continueChar p b
    out ++ readFrom next bs

/-- The characters that bytes spell. -/
def readUtf8 (bs : List UInt8) : List Char := readFrom none bs

end Text
end FormLogic
