/-
  FormLogic.Json.Parser.Fault

  What can be wrong with a JSON text, and where.

  A reader takes the remaining characters and returns a value with the
  characters after it, together with the proof that some were used up
  (`Step`).  A fault says what is wrong and how many bytes of text lie behind
  it, from which `SyntaxError` counts line and column (in bytes, starting
  after the last line break).
-/

import FormLogic.Json.Basic

namespace FormLogic

/-! ## Errors -/

/-- What is wrong with a JSON text. -/
inductive SyntaxCause where
  | eofInList
  | eofInObject
  | eofInString
  | eofInValue
  | expectedColon
  | expectedListCommaOrEnd
  | expectedObjectCommaOrEnd
  | expectedIdent
  | expectedValue
  | invalidEscape
  | invalidNumber
  | numberOutOfRange
  | controlCharacter
  | keyMustBeString
  | loneSurrogate
  | trailingComma
  | trailingCharacters
  | unexpectedEndOfEscape
  | tooDeep
deriving DecidableEq, Repr

/-- The wording of a cause. -/
def SyntaxCause.message : SyntaxCause → String
  | .eofInList => "EOF while parsing a list"
  | .eofInObject => "EOF while parsing an object"
  | .eofInString => "EOF while parsing a string"
  | .eofInValue => "EOF while parsing a value"
  | .expectedColon => "expected `:`"
  | .expectedListCommaOrEnd => "expected `,` or `]`"
  | .expectedObjectCommaOrEnd => "expected `,` or `\x7d`"
  | .expectedIdent => "expected ident"
  | .expectedValue => "expected value"
  | .invalidEscape => "invalid escape"
  | .invalidNumber => "invalid number"
  | .numberOutOfRange => "number out of range"
  | .controlCharacter =>
    "control character (\\u0000-\\u001F) found while parsing a string"
  | .keyMustBeString => "key must be a string"
  | .loneSurrogate => "lone leading surrogate in hex escape"
  | .trailingComma => "trailing comma"
  | .trailingCharacters => "trailing characters"
  | .unexpectedEndOfEscape => "unexpected end of hex escape"
  | .tooDeep => "recursion limit exceeded"

/-- A cause at a place in the text. -/
structure SyntaxError where
  cause : SyntaxCause
  line : Nat
  column : Nat
deriving DecidableEq, Repr

def SyntaxError.message (e : SyntaxError) : String :=
  e.cause.message ++ " at line " ++ toString e.line ++ " column " ++ toString e.column

namespace Json.Parser

/-! ## Places -/

/-- The number of bytes that a text takes. -/
def byteCount (cs : List Char) : Nat := cs.foldl (fun n c => n + c.utf8Size) 0

/-- A cause with the number of bytes behind its place. -/
structure Fault where
  cause : SyntaxCause
  bytesLeft : Nat

/-- The fault just before the remaining text. -/
def Fault.here (cause : SyntaxCause) (rest : List Char) : Fault := ⟨cause, byteCount rest⟩

/-- The fault one byte into the remaining text. -/
def Fault.past (cause : SyntaxCause) (rest : List Char) : Fault := ⟨cause, byteCount rest - 1⟩

/-- Line and column after `offset` bytes of a text. -/
def place (line column : Nat) : Nat → List Char → Nat × Nat
  | 0, _ => (line, column)
  | offset, [] => (line, column + offset)
  | offset, c :: cs =>
    if offset < c.utf8Size then (line, column + offset)
    else if c = '\n' then place (line + 1) 0 (offset - c.utf8Size) cs
    else place line (column + c.utf8Size) (offset - c.utf8Size) cs

/-- The error that a fault is in a text. -/
def Fault.toError (f : Fault) (text : List Char) : SyntaxError :=
  let (line, column) := place 1 0 (byteCount text - f.bytesLeft) text
  ⟨f.cause, line, column⟩

/-! ## Steps -/

/-- What is left of a text after a reader used up some of it. -/
abbrev Rest (s : List Char) := { r : List Char // r.length < s.length }

/-- The outcome of a reader on a text. -/
abbrev Step (α : Type) (s : List Char) := Except Fault (α × Rest s)

/-- An outcome on a tail of a text is an outcome on the text. -/
def Step.widen {α : Type} {s t : List Char} (h : t.length ≤ s.length) : Step α t → Step α s
  | .ok (a, r) => .ok (a, ⟨r.1, Nat.lt_of_lt_of_le r.2 h⟩)
  | .error f => .error f

/-- The blanks between tokens. -/
def isBlank (c : Char) : Bool := c = ' ' || c = '\n' || c = '\t' || c = '\r'

def skipBlanks (s : List Char) : List Char := s.dropWhile isBlank

theorem skipBlanks_length (s : List Char) : (skipBlanks s).length ≤ s.length :=
  (List.dropWhile_suffix isBlank).length_le

/-- What lies behind the first character that is not blank is shorter. -/
theorem length_lt_of_skipBlanks {s r : List Char} {c : Char} (h : skipBlanks s = c :: r) :
    r.length < s.length := by
  have hs := skipBlanks_length s
  rw [h] at hs
  exact hs

/-- The rest of a keyword, character by character. -/
def keyword (value : Json) : List Char → (s : List Char) → Except Fault (Json × List Char)
  | [], s => .ok (value, s)
  | _ :: _, [] => .error (.here .eofInValue [])
  | w :: ws, c :: s =>
    if c = w then keyword value ws s else .error (.past .expectedIdent (c :: s))

theorem keyword_length {value : Json} {ws s : List Char} {v : Json} {r : List Char}
    (h : keyword value ws s = .ok (v, r)) : r.length ≤ s.length := by
  induction ws generalizing s with
  | nil => simp [keyword] at h; simp [h.2]
  | cons w ws ih =>
    cases s with
    | nil => simp [keyword] at h
    | cons c s =>
      simp only [keyword] at h
      split at h
      · exact Nat.le_succ_of_le (ih h)
      · simp at h

end Json.Parser
end FormLogic
