/-
  FormLogic.Remote.Search

  Requests for options that match what a user types, and their replies.
  Nothing is sent here: a request says what to send.

  Specification, section 4.8 (remote search helpers).
-/

import FormLogic.Json.Shape
import FormLogic.Url.Parser
import FormLogic.Url.Query

namespace FormLogic

/-! ## Requests -/

/-- How a request is sent. -/
inductive SearchMethod where
  | get
  | post
deriving DecidableEq, Repr

namespace SearchMethod

/-- All methods. -/
def all : List SearchMethod := [get, post]

/-- The name of a method. -/
def name : SearchMethod → String
  | get => "GET"
  | post => "POST"

def decode : Json → Shaped SearchMethod := Json.asChoice all name

def encode (m : SearchMethod) : Json := .string m.name

end SearchMethod

/-- Why a search cannot be asked or its reply not be used. -/
inductive SearchError where
  | invalidEndpoint (endpoint : String) (reason : Url.Error)
  | unexpectedShape
deriving DecidableEq, Repr

/-- The wording of an error. -/
def SearchError.message : SearchError → String
  | .invalidEndpoint endpoint reason =>
    "invalid search endpoint '" ++ endpoint ++ "': " ++ reason.message
  | .unexpectedShape =>
    "search response is not an array, \x7bresults: [...]\x7d or \x7bdata: [...]\x7d"

/-- A request: where to send it, how, and with what. -/
structure SearchRequest where
  method : SearchMethod
  url : Url
  headers : Dict String
  body : Option Json

namespace SearchRequest

/-- The name that what was typed is sent under. -/
def queryName : String := "q"

/-- The request for what was typed: in the query of the address, or in the body. -/
def make (endpoint : String) (method : SearchMethod) (typed : String) (headers : Dict String) :
    Except SearchError SearchRequest :=
  match Url.ofText endpoint with
  | .error reason => .error (.invalidEndpoint endpoint reason)
  | .ok url =>
    match method with
    | .get => .ok ⟨.get, url.appendPair queryName typed, headers, none⟩
    | .post => .ok ⟨.post, url, headers, some (.object [(queryName, .string typed)])⟩

end SearchRequest

/-! ## Replies -/

/-- The names under which a reply may hold its options, the first that holds a list counting. -/
def optionNames : List String := ["results", "data"]

/-- The options of a reply: the list that it is, or the list in one of its members. -/
def searchOptions (reply : Json) : Except SearchError (List Json) :=
  match reply with
  | .array options => .ok options
  | .object members =>
    match optionNames.findSome? fun n => (Dict.get? members n).bind Json.items? with
    | some options => .ok options
    | none => .error .unexpectedShape
  | _ => .error .unexpectedShape

end FormLogic
