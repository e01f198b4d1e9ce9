/-
  FormLogic.Url.Parser

  Reading absolute addresses as they are typed: blanks around and line breaks
  within do not count, names of hosts are brought to one form, and characters
  that an address cannot show are written as bytes.
-/

import FormLogic.Url.Domain
import FormLogic.Url.Route

namespace FormLogic
namespace Url

/-! ## Cleaning -/

/-- The characters without controls and blanks around, and without tabs and line breaks. -/
def cleaned (text : String) : List Char :=
  let outer (c : Char) : Bool := c.toNat ≤ 0x20
  let inner := ((text.toList.dropWhile outer).reverse.dropWhile outer).reverse
  inner.filter fun c => c ≠ '\t' && c ≠ '\n' && c ≠ '\r'

/-- The scheme before the first colon, in small letters, and what follows the colon. -/
def splitScheme? (cs : List Char) : Option (String × List Char) :=
  let inScheme (c : Char) : Bool := c.isAlphanum || c = '+' || c = '-' || c = '.'
  match cs.takeWhile inScheme, cs.dropWhile inScheme with
  | c :: more, ':' :: rest =>
    if c.isAlpha then some (String.ofList ((c :: more).map Char.toLower), rest) else none
  | _, _ => none

/-! ## Hosts -/

/-- A host in brackets, which has to be an IPv6 address. -/
def bracketHost (cs : List Char) : Except Error Host :=
  if cs.getLast? = some ']' then
    match ipv6OfText? (cs.drop 1).dropLast with
    | some words => .ok (.ipv6 words)
    | none => .error .badIpv6Address
  else .error .badIpv6Address

/-- A host of a known scheme: an IPv6 address, an IPv4 address, or a name. -/
def knownHost (cs : List Char) : Except Error Host :=
  if cs.head? = some '[' then bracketHost cs
  else
    match Domain.toPlain? (Text.readUtf8 (unescape cs)) with
    | none => .error .badName
    | some [] => .error .emptyHost
    | some name =>
      if endsInNumber name then
        match ipv4OfText? name with
        | some address => .ok (.ipv4 address)
        | none => .error .badIpv4Address
      else .ok (.name (String.ofList name))

/-- The characters that no name of a host can have. -/
def barredInHost (c : Char) : Bool :=
  ['\x00', '\t', '\n', '\r', ' ', '#', '/', ':', '<', '>', '?', '@', '[', '\\', ']', '^',
    '|'].contains c

/-- A host of another scheme: an IPv6 address, or a name taken as it is. -/
def otherHost (cs : List Char) : Except Error Host :=
  if cs.head? = some '[' then bracketHost cs
  else if cs.any barredInHost then .error .badNameCharacter
  else .ok (.name (String.ofList (escape escapesControls cs)))

/-- Whether a character ends what names the host and the user. -/
def endsAuthority (kind : SchemeKind) (c : Char) : Bool :=
  c = '/' || c = '?' || c = '#' || (kind ≠ .other && c = '\\')

/-- The host at the front: it ends at a colon outside brackets or with the authority. -/
def splitHost (kind : SchemeKind) (inBrackets : Bool) : List Char → List Char × List Char
  | [] => ([], [])
  | c :: cs =>
    if (c = ':' && !inBrackets) || endsAuthority kind c then ([], c :: cs)
    else
      let (host, rest) := splitHost kind (if c = '[' then true else if c = ']' then false else inBrackets) cs
      (c :: host, rest)

/-! ## Ports -/

/-- The largest port. -/
def portLimit : Nat := 65535

/-- The port at the front, and what is left. -/
def readPort (value : Option Nat) : List Char → Except Error (Option Nat × List Char)
  | [] => .ok (value, [])
  | c :: cs =>
    if c.isDigit then
      let v := value.getD 0 * 10 + (c.toNat - '0'.toNat)
      if v ≤ portLimit then readPort (some v) cs else .error .badPort
    else if c = '/' ∨ c = '\\' ∨ c = '?' ∨ c = '#' then .ok (value, c :: cs)
    else .error .badPort

/-! ## Users -/

/-- The part before the last at-sign of an authority, and what follows; nothing if there is no
at-sign. -/
def splitUser (kind : SchemeKind) (cs : List Char) : Option (List Char × List Char) :=
  let authority := cs.takeWhile fun c => !endsAuthority kind c
  if authority.contains '@' then
    let user := ((authority.reverse.dropWhile (· ≠ '@')).drop 1).reverse
    some (user, cs.drop (user.length + 1))
  else none

/-- The name and the password of a user, and what follows. -/
def readUser (kind : SchemeKind) (cs : List Char) : Except Error (String × String × List Char) :=
  match splitUser kind cs with
  | none => .ok ("", "", cs)
  | some ([], rest) =>
    if rest.head?.any (endsAuthority kind) then .error .emptyHost else .ok ("", "", rest)
  | some (user, rest) =>
    let name := user.takeWhile (· ≠ ':')
    let password := (user.dropWhile (· ≠ ':')).drop 1
    .ok (String.ofList (escape escapesUser name), String.ofList (escape escapesUser password),
      rest)

/-! ## Queries and fragments -/

/-- The address with the query and fragment at the end of its text. -/
def withTail (u : Url) (cs : List Char) : Url :=
  let set := if schemeKind u.scheme = .other then escapesQuery else escapesSpecialQuery
  let encodedText (set : Char → Bool) (cs : List Char) : String := String.ofList (escape set cs)
  let fragment (cs : List Char) : Option String :=
    match cs with
    | '#' :: rest => some (encodedText escapesFragment rest)
    | _ => none
  match cs with
  | '?' :: rest =>
    { u with query := some (encodedText set (rest.takeWhile (· ≠ '#')))
             fragment := fragment (rest.dropWhile (· ≠ '#')) }
  | cs => { u with fragment := fragment cs }

/-! ## Addresses with a host -/

/-- A port after a host, which a name that is empty cannot have. -/
def readHostPort (scheme : String) (host : Host) (cs : List Char) :
    Except Error (Option Nat × List Char) :=
  if host = .name "" ∧ (cs.head? = some ':' ∨ schemeKind scheme ≠ .other) then .error .emptyHost
  else
    match cs with
    | ':' :: rest =>
      match readPort none rest with
      | .ok (port, rest) => .ok (if port = usualPort? scheme then none else port, rest)
      | .error e => .error e
    | cs => .ok (none, cs)

/-- The path after a host, and what is left. -/
def hostPath (kind : SchemeKind) (cs : List Char) : List Char × Bool × List Char :=
  if kind = .other then
    match cs with
    | '?' :: _ => ([], false, cs)
    | '#' :: _ => ([], false, cs)
    | [] => ([], false, [])
    | '/' :: _ => Route.read kind [] cs
    | _ => Route.read kind ['/'] cs
  else
    match cs with
    | c :: rest => Route.read kind ['/'] (if Route.Draft.isSlash kind c then rest else cs)
    | [] => Route.read kind ['/'] []

/-- An address with a host, after the two slashes. -/
def readAuthority (scheme : String) (cs : List Char) : Except Error Url := do
  let kind := schemeKind scheme
  let (user, password, rest) ← readUser kind cs
  let (hostText, rest) := splitHost kind false rest
  let host ←
    if kind = .special then
      (if hostText = [] then .error .emptyHost else knownHost hostText)
    else otherHost hostText
  let (port, rest) ← readHostPort scheme host rest
  if host = .name "" ∧ ¬ (user = "" ∧ password = "") then .error .emptyHost
  else
    let (path, _, rest) := hostPath kind rest
    return withTail ⟨scheme, some ⟨user, password, host, port⟩, String.ofList path, none, none⟩ rest

/-! ## Files -/

/-- The address of a file. -/
def fileUrl (host : Host) (path : List Char × Bool × List Char) : Url :=
  let (path, dropsHost, rest) := path
  withTail ⟨"file", some ⟨"", "", if dropsHost then .name "" else host, none⟩,
    String.ofList path, none, none⟩ rest

/-- The host of a file after the two slashes, none for this machine, and what is left. -/
def fileHost (cs : List Char) : Except Error (Option Host × List Char) :=
  let text := cs.takeWhile fun c => !endsAuthority .file c
  if Route.isDrive text ∨ text = [] then .ok (none, cs)
  else
    match knownHost text with
    | .error e => .error e
    | .ok host =>
      .ok (if host = .name "localhost" then none else some host,
        cs.dropWhile fun c => !endsAuthority .file c)

/-- The address of a file, after the colon. -/
def readFile (cs : List Char) : Except Error Url :=
  match cs with
  | a :: b :: rest =>
    if Route.Draft.isSlash .file a && Route.Draft.isSlash .file b then
      match fileHost rest with
      | .error e => .error e
      | .ok (some host, rest) => .ok (fileUrl host (hostPath .file rest))
      | .ok (none, rest) => .ok (fileUrl (.name "") (Route.read .file ['/'] rest))
    else if Route.Draft.isSlash .file a then
      .ok (fileUrl (.name "") (Route.read .file [] cs))
    else .ok (fileUrl (.name "") (Route.read .file ['/'] cs))
  | cs =>
    if cs.head?.any (Route.Draft.isSlash .file) then
      .ok (fileUrl (.name "") (Route.read .file [] cs))
    else .ok (fileUrl (.name "") (Route.read .file ['/'] cs))

/-! ## Addresses without a host -/

/-- An address of another scheme, after the colon: with a host, with a path, or with a text that
is taken as it is. -/
def readOther (scheme : String) (cs : List Char) : Except Error Url :=
  match cs with
  | '/' :: '/' :: rest => readAuthority scheme rest
  | '/' :: rest =>
    let (path, _, rest) := Route.read .other ['/'] rest
    .ok (withTail ⟨scheme, none, String.ofList path, none, none⟩ rest)
  | cs =>
    let isText (c : Char) : Bool := c ≠ '?' && c ≠ '#'
    .ok (withTail
      ⟨scheme, none, String.ofList (escape escapesControls (cs.takeWhile isText)), none, none⟩
      (cs.dropWhile isText))

/-- The address that a text is. -/
def ofText (text : String) : Except Error Url :=
  match splitScheme? (cleaned text) with
  | none => .error .relative
  | some (scheme, rest) =>
    match schemeKind scheme with
    | .file => readFile rest
    | .special =>
      readAuthority scheme (rest.dropWhile fun c => c = '/' || c = '\\')
    | .other => readOther scheme rest

end Url
end FormLogic
