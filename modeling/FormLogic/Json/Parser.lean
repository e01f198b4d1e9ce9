/-
  FormLogic.Json.Parser

  Reading JSON text.  Nesting is limited to `maxDepth` levels; of two members
  with one name the later counts.
-/

import FormLogic.Json.Parser.Numbers
import FormLogic.Json.Parser.Strings

namespace FormLogic
namespace Json.Parser

/-! ## Lists and objects -/

/-- Gives an outcome its proof of progress. -/
def withProgress {s : List Char} (o : Except Fault (Json × List Char))
    (h : ∀ v r, o = .ok (v, r) → r.length < s.length) : Step Json s :=
  match o, h with
  | .error f, _ => .error f
  | .ok (v, r), h => .ok (v, ⟨r, h v r rfl⟩)

/-- The next turn in a list or object: its end, or the start of one more entry. -/
inductive Turn (s : List Char) where
  | close (rest : Rest s)
  | entry (start : { r : List Char // r.length ≤ s.length })

/-- Whether a list goes on: an entry comes first or behind a comma. -/
def listTurn (first : Bool) (s : List Char) : Except Fault (Turn s) :=
  match h : skipBlanks s with
  | [] => .error (.here .eofInList [])
  | c :: r =>
    have hs := length_lt_of_skipBlanks h
    if c = ']' then .ok (.close ⟨r, hs⟩)
    else if first then .ok (.entry ⟨c :: r, hs⟩)
    else if c = ',' then
      match h' : skipBlanks r with
      | [] => .error (.here .eofInValue [])
      | d :: r' =>
        if d = ']' then .error (.past .trailingComma (d :: r'))
        else .ok (.entry ⟨d :: r', Nat.le_trans (length_lt_of_skipBlanks h') (Nat.le_of_lt hs)⟩)
    else .error (.past .expectedListCommaOrEnd (c :: r))

/-- Whether an object goes on: a quoted name comes first or behind a comma.  The start lies behind
the quote. -/
def objectTurn (first : Bool) (s : List Char) : Except Fault (Turn s) :=
  match h : skipBlanks s with
  | [] => .error (.here .eofInObject [])
  | c :: r =>
    have hs := length_lt_of_skipBlanks h
    if c = '\x7d' then .ok (.close ⟨r, hs⟩)
    else if first then
      if c = '"' then .ok (.entry ⟨r, Nat.le_of_lt hs⟩)
      else .error (.past .keyMustBeString (c :: r))
    else if c = ',' then
      match h' : skipBlanks r with
      | [] => .error (.here .eofInValue [])
      | d :: r' =>
        if d = '"' then
          .ok (.entry ⟨r', Nat.le_of_lt (Nat.lt_trans (length_lt_of_skipBlanks h') hs)⟩)
        else if d = '\x7d' then .error (.past .trailingComma (d :: r'))
        else .error (.past .keyMustBeString (d :: r'))
    else .error (.past .expectedObjectCommaOrEnd (c :: r))

/-- The entries of a list up to its end, read by `value`. -/
def entries (value : (s : List Char) → Step Json s) (first : Bool) (s : List Char) :
    Step (List Json) s :=
  match listTurn first s with
  | .error f => .error f
  | .ok (.close rest) => .ok ([], rest)
  | .ok (.entry start) =>
    match value start.1 with
    | .error f => .error f
    | .ok (v, rest) =>
      have hstart := start.2
      have hrest := rest.2
      match entries value false rest.1 with
      | .error f => .error f
      | .ok (vs, last) => .ok (v :: vs, ⟨last.1, by have := last.2; omega⟩)
termination_by s.length
decreasing_by omega

/-- The colon between a name and its value. -/
def colon (s : List Char) : Except Fault (Rest s) :=
  match h : skipBlanks s with
  | [] => .error (.here .eofInObject [])
  | c :: r =>
    if c = ':' then .ok ⟨r, length_lt_of_skipBlanks h⟩
    else .error (.past .expectedColon (c :: r))

/-- The members of an object up to its end, read by `value`. -/
def members (value : (s : List Char) → Step Json s) (first : Bool) (s : List Char) :
    Step (List (String × Json)) s :=
  match objectTurn first s with
  | .error f => .error f
  | .ok (.close rest) => .ok ([], rest)
  | .ok (.entry start) =>
    match stringBody [] start.1 with
    | .error f => .error f
    | .ok (name, rest) =>
      match colon rest.1 with
      | .error f => .error f
      | .ok afterColon =>
        match value afterColon.1 with
        | .error f => .error f
        | .ok (v, rest') =>
          have hstart := start.2
          have hrest := rest.2
          have hcolon := afterColon.2
          have hrest' := rest'.2
          match members value false rest'.1 with
          | .error f => .error f
          | .ok (ms, last) => .ok ((name, v) :: ms, ⟨last.1, by have := last.2; omega⟩)
termination_by s.length
decreasing_by omega

/-! ## Values -/

/-- The number of nested lists and objects that a text may open. -/
def maxDepth : Nat := 127

/-- A value, with `depth` more levels of nesting allowed. -/
def value : (depth : Nat) → (s : List Char) → Step Json s
  | depth, s =>
    match h : skipBlanks s with
    | [] => .error (.here .eofInValue [])
    | c :: r =>
      have hlen : (c :: r).length ≤ s.length := h ▸ skipBlanks_length s
      have hr : r.length < s.length := hlen
      have word (v : Json) (w : String) : Step Json s :=
        withProgress (keyword v w.toList r) fun _ _ e =>
          Nat.lt_of_le_of_lt (keyword_length e) hr
      match c with
      | 'n' => word .null "ull"
      | 't' => word (.bool true) "rue"
      | 'f' => word (.bool false) "alse"
      | '-' =>
        withProgress (number true r) fun _ _ e => Nat.lt_trans (number_length e) hr
      | '"' => Step.widen (Nat.le_of_lt hr) ((stringBody [] r).map fun p => (.string p.1, p.2))
      | '[' =>
        match depth with
        | 0 => .error (.past .tooDeep (c :: r))
        | depth + 1 =>
          Step.widen (Nat.le_of_lt hr)
            ((entries (value depth) true r).map fun p => (.array p.1, p.2))
      | '\x7b' =>
        match depth with
        | 0 => .error (.past .tooDeep (c :: r))
        | depth + 1 =>
          Step.widen (Nat.le_of_lt hr)
            ((members (value depth) true r).map fun p => (ofMembers p.1, p.2))
      | _ =>
        if c.isDigit then
          withProgress (number false (c :: r)) fun _ _ e =>
            Nat.lt_of_lt_of_le (number_length e) hlen
        else .error (.past .expectedValue (c :: r))

/-- A whole text: one value with nothing but blanks behind it. -/
def document (s : List Char) : Except Fault Json :=
  match value maxDepth s with
  | .error f => .error f
  | .ok (v, rest) =>
    match skipBlanks rest.1 with
    | [] => .ok v
    | c :: r => .error (.past .trailingCharacters (c :: r))

end Json.Parser

/-- Reads a JSON text. -/
def Json.parse (text : String) : Except SyntaxError Json :=
  let cs := text.toList
  match Parser.document cs with
  | .ok v => .ok v
  | .error f => .error (f.toError cs)

end FormLogic
