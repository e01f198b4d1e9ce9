/-
  FormLogic.Url.Route

  Paths of addresses, read segment by segment: dots name the segment itself
  and the one before, and files may begin with the letter of a drive.
-/

import FormLogic.Url.Basic

namespace FormLogic
namespace Url
namespace Route

/-! ## Drive letters -/

/-- Whether a character can stand after the letter of a drive. -/
def isDriveMark (c : Char) : Bool := c = ':' || c = '|'

/-- Whether a segment begins with the letter of a drive and nothing else before its end. -/
def beginsWithDrive (cs : List Char) : Bool :=
  match cs with
  | [a, b] => a.isAlpha && isDriveMark b
  | a :: b :: c :: _ => a.isAlpha && isDriveMark b && ['/', '\\', '?', '#'].contains c
  | _ => false

/-- Whether a segment is the letter of a drive. -/
def isDrive (segment : List Char) : Bool := segment.length = 2 && beginsWithDrive segment

/-- Whether a segment is the letter of a drive with a colon. -/
def isDriveWithColon (segment : List Char) : Bool := isDrive segment && segment.drop 1 = [':']

/-! ## Dots -/

/-- Whether a segment names itself. -/
def isSelf (segment : List Char) : Bool :=
  [".", "%2e", "%2E"].contains (String.ofList segment)

/-- Whether a segment names the one before. -/
def isParent (segment : List Char) : Bool :=
  ["..", "%2e%2e", "%2e%2E", "%2E%2e", "%2E%2E", "%2e.", "%2E.", ".%2e", ".%2E"].contains
    (String.ofList segment)

/-! ## Reading -/

/-- A path being read: what stands before the segment at hand, that segment, both last character
first, and whether the host has to go because a drive is named. -/
structure Draft where
  before : List Char
  segment : List Char := []
  dropsHost : Bool := false

namespace Draft

/-- The draft with a slash behind unless there is one. -/
def endInSlash (before : List Char) : List Char :=
  if before.head? = some '/' then before else '/' :: before

/-- Whether the slash at the end can go: there is another one, and no drive between. -/
def slashCanGo (before : List Char) : Bool :=
  let rest := before.drop 1
  rest.contains '/'
    && !beginsWithDrive ((rest.takeWhile (· ≠ '/')).reverse ++ ['/'])

/-- The path without its last segment. -/
def parent (kind : SchemeKind) (before : List Char) : List Char :=
  let before :=
    if before.head? = some '/' && slashCanGo before then before.drop 1 else before
  let last := (before.takeWhile (· ≠ '/')).reverse
  if kind = .file && isDriveWithColon last then before else before.dropWhile (· ≠ '/')

/-- The draft after the end of a segment, which a slash follows or not. -/
def finish (kind : SchemeKind) (d : Draft) (slash : Bool) : Draft :=
  let segment := d.segment.reverse
  if isParent segment then
    let up := parent kind d.before
    { d with before := if slash then endInSlash up else up, segment := [] }
  else if isSelf segment then { d with before := endInSlash d.before, segment := [] }
  else
    let drive := kind = .file && d.before.length = 1 && isDrive segment
    let text := if drive then ':' :: segment.take 1 else d.segment
    { before := (if slash then ['/'] else []) ++ text ++ d.before
      dropsHost := d.dropsHost || drive }

/-- The draft with another character; a drive is kept apart from what follows. -/
def push (kind : SchemeKind) (d : Draft) (c : Char) : Draft :=
  let d :=
    if kind = .file && d.before.length = 1 && isDriveWithColon d.segment.reverse then
      { d with before := d.segment.drop 1 ++ d.before, segment := ['/', ':'] }
    else d
  { d with segment := (escapeChar escapesPath c).reverse ++ d.segment }

/-- Whether a character ends a segment. -/
def isSlash (kind : SchemeKind) (c : Char) : Bool := c = '/' || (kind ≠ .other && c = '\\')

/-- Reads on to the end of the path; gives what is left. -/
def read (kind : SchemeKind) (d : Draft) : List Char → Draft × List Char
  | [] => (d.finish kind false, [])
  | c :: cs =>
    if isSlash kind c then read kind (d.finish kind true) cs
    else if c = '?' ∨ c = '#' then (d.finish kind false, c :: cs)
    else read kind (d.push kind c) cs

/-- The path of a draft; that of a file begins with one slash only. -/
def path (kind : SchemeKind) (d : Draft) : List Char :=
  if kind = .file then '/' :: d.before.reverse.dropWhile (· = '/') else d.before.reverse

end Draft

/-- A path that begins with the characters given: its text, whether the host has to go, and what
is left. -/
def read (kind : SchemeKind) (start cs : List Char) : List Char × Bool × List Char :=
  let (d, rest) := Draft.read kind ⟨start.reverse, [], false⟩ cs
  (d.path kind, d.dropsHost, rest)

end Route
end Url
end FormLogic
