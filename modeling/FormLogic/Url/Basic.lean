/-
  FormLogic.Url.Basic

  Absolute addresses: a scheme, perhaps a host with user and port, a path,
  perhaps a query, perhaps a fragment.  All parts are kept as they are
  written.

  Specification, section 4.5 (absolute addresses of `url` fields) and section
  4.8 (requests).
-/

import FormLogic.Url.Address

namespace FormLogic

namespace Url

/-- The host of an address; the empty name stands for none. -/
inductive Host where
  | name (text : String)
  | ipv4 (address : Nat)
  | ipv6 (words : List Nat)
deriving DecidableEq, Repr

/-- The text of a host. -/
def Host.text : Host → String
  | .name text => text
  | .ipv4 address => ipv4Text address
  | .ipv6 words => "[" ++ ipv6Text words ++ "]"

/-- Who is addressed: a user with a password, each possibly empty, a host, and a port other than
the usual one. -/
structure Authority where
  user : String := ""
  password : String := ""
  host : Host
  port : Option Nat := none
deriving DecidableEq, Repr

namespace Authority

/-- The text before the host. -/
def userText (a : Authority) : String :=
  if a.user = "" ∧ a.password = "" then ""
  else a.user ++ (if a.password = "" then "" else ":" ++ a.password) ++ "@"

/-- The text after the host. -/
def portText (a : Authority) : String :=
  match a.port with
  | some p => ":" ++ toString p
  | none => ""

/-- The text of an authority. -/
def text (a : Authority) : String := a.userText ++ a.host.text ++ a.portText

end Authority
end Url

/-- An absolute address. -/
structure Url where
  scheme : String
  authority : Option Url.Authority
  path : String
  query : Option String := none
  fragment : Option String := none
deriving DecidableEq, Repr

namespace Url

/-- Why a text is no absolute address. -/
inductive Error where
  | relative
  | emptyHost
  | badName
  | badPort
  | badIpv4Address
  | badIpv6Address
  | badNameCharacter
deriving DecidableEq, Repr

/-- The wording of an error. -/
def Error.message : Error → String
  | .relative => "relative URL without a base"
  | .emptyHost => "empty host"
  | .badName => "invalid international domain name"
  | .badPort => "invalid port number"
  | .badIpv4Address => "invalid IPv4 address"
  | .badIpv6Address => "invalid IPv6 address"
  | .badNameCharacter => "invalid domain character"

/-! ## Text -/

/-- What stands between the scheme and the path; without a host, a path must not begin as one
with a host would. -/
def authorityText (u : Url) : String :=
  match u.authority with
  | some a => "//" ++ a.text
  | none => if "//".toList.isPrefixOf u.path.toList then "/." else ""

/-- A part of an address with the sign in front of it, if the part is there. -/
def partText (sign : String) (part : Option String) : String :=
  match part with
  | some t => sign ++ t
  | none => ""

/-- The text of an address. -/
def text (u : Url) : String :=
  u.scheme ++ ":" ++ u.authorityText ++ u.path ++ partText "?" u.query
    ++ partText "#" u.fragment

/-! ## Schemes -/

/-- How the addresses of a scheme are read. -/
inductive SchemeKind where
  | file
  | special
  | other
deriving DecidableEq, Repr

/-- The kind of a scheme. -/
def schemeKind (scheme : String) : SchemeKind :=
  if scheme = "file" then .file
  else if ["http", "https", "ws", "wss", "ftp"].contains scheme then .special
  else .other

/-- The usual port of a scheme. -/
def usualPort? (scheme : String) : Option Nat :=
  match scheme with
  | "http" => some 80
  | "ws" => some 80
  | "https" => some 443
  | "wss" => some 443
  | "ftp" => some 21
  | _ => none

end Url
end FormLogic
