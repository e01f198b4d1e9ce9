/-
  FormLogic.Proofs.Remote.Requests

  What is typed, in the request that is made for it.

  A request by address has what was typed as the last pair of the query and
  is otherwise the address of the endpoint; a request with a body leaves the
  address alone.  No character of what was typed is lost or taken for a sign
  of the address: not for one that parts the query, and not for the one that
  ends it.

    * `SearchRequest.make_of_endpoint` — the two requests for an endpoint.
-/

import FormLogic.Remote.Search
import FormLogic.Proofs.Url.Query

namespace FormLogic

/-- A query has the sign of the fragment only where it had it before the pair was added. -/
theorem Url.hash_mem_of_appendPair {u : Url} {name value query : String}
    (h : (u.appendPair name value).query = some query) (hhash : '#' ∈ query.toList) :
    ∃ old, u.query = some old ∧ '#' ∈ old.toList := by
  have hpair : '#' ∉ (pairText name value).toList := by
    have hmark : isQueryMark '#' = false := by decide
    rw [toList_pairText, List.mem_append, List.mem_cons, not_or, not_or]
    exact ⟨notMem_queryText hmark _, by decide, notMem_queryText hmark _⟩
  obtain rfl := Option.some.inj h
  cases hold : u.query with
  | none => simp [hold, hpair] at hhash
  | some old =>
    refine ⟨old, rfl, ?_⟩
    by_cases hempty : old = ""
    · simp [hold, hempty, hpair] at hhash
    · simpa [hold, hempty, hpair] using hhash

/-- Every endpoint that is an address can be asked for whatever was typed.  By address, the request
has no body, and its address is that of the endpoint but for the query, which is read as the pairs
of the endpoint and what was typed behind them, and which what was typed does not end.  With a
body, the address is that of the endpoint, and the body has what was typed. -/
theorem SearchRequest.make_of_endpoint {endpoint : String} {u : Url}
    (h : Url.ofText endpoint = .ok u) (typed : String) (headers : Dict String) :
    (∃ r, make endpoint .get typed headers = .ok r
      ∧ r.method = .get ∧ r.headers = headers ∧ r.body = none
      ∧ r.url.scheme = u.scheme ∧ r.url.authority = u.authority ∧ r.url.path = u.path
      ∧ r.url.fragment = u.fragment
      ∧ r.url.pairs = u.pairs ++ [("q", typed)]
      ∧ ∀ query, r.url.query = some query → '#' ∈ query.toList →
        ∃ old, u.query = some old ∧ '#' ∈ old.toList)
    ∧ make endpoint .post typed headers
      = .ok ⟨.post, u, headers, some (.object [("q", .string typed)])⟩ := by
  have hget : make endpoint .get typed headers
      = .ok ⟨.get, u.appendPair "q" typed, headers, none⟩ := by
    simp only [make, h, queryName]
  refine ⟨⟨_, hget, rfl, rfl, rfl, rfl, rfl, rfl, rfl, ?_, ?_⟩, ?_⟩
  · exact Url.pairs_appendPair u "q" typed
  · exact fun query hquery hhash => Url.hash_mem_of_appendPair hquery hhash
  · simp only [make, h, queryName]

/-! ## Looking for a city -/

namespace Cities

/-- Where cities are looked for: a few at a time, with a separator left behind, and at a place in
the page. -/
def endpoint : String := "http://[::1]:8080/cities?limit=5&#top"

/-- The address that this is. -/
def address : Url where
  scheme := "http"
  authority := some { host := .ipv6 [0, 0, 0, 0, 0, 0, 0, 1], port := some 8080 }
  path := "/cities"
  query := some "limit=5&"
  fragment := some "top"

/-- What is typed has a sign of every kind that a query has. -/
def typed : String := "Köln & q=50% #1+"

theorem ofText_endpoint : Url.ofText endpoint = .ok address := by rfl

/-- The limit stays, and what is typed comes back whole. -/
theorem city_typed_comes_back : Url.ofText endpoint = .ok address
    ∧ (∃ r, SearchRequest.make endpoint .get typed [] = .ok r ∧ r.body = none
      ∧ r.url.authority = address.authority ∧ r.url.fragment = some "top"
      ∧ r.url.pairs = [("limit", "5"), ("q", typed)])
    ∧ SearchRequest.make endpoint .post typed []
      = .ok ⟨.post, address, [], some (.object [("q", .string typed)])⟩ := by
  obtain ⟨⟨r, hr, -, -, hbody, -, hauthority, -, hfragment, hpairs, -⟩, hpost⟩ :=
    SearchRequest.make_of_endpoint ofText_endpoint typed []
  have hlimit : address.pairs = [("limit", "5")] := by rfl
  rw [hlimit] at hpairs
  exact ⟨ofText_endpoint, ⟨r, hr, hbody, hauthority, hfragment, hpairs⟩, hpost⟩

end Cities
end FormLogic
