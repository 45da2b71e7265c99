-- SUMMARY: Sending the request for a filter and turning the answer into results.
import FieldedSearch.BooleanQuery.Request
import FieldedSearch.Filter.Query
import FieldedSearch.Number.Amount
import FieldedSearch.Search.Answer
import FieldedSearch.Search.Hits

/-!
# Searchers

A searcher holds a filter and the options for reaching the backend. A search sends
one request, unless options are missing or the filter has no query, and turns the
answer into a list of results. The number of hits is kept as soon as it is known,
even if the hits themselves turn out to be unusable.
-/

namespace FieldedSearch.Search

/-- How the backend is reached, and whether only ids are wanted. The timeout is passed on
as it is. -/
structure Options where
  endpoint : Option String
  idsOnly : Bool
  timeout : Value
  verify : Bool
deriving Repr

/-- The seconds after which a request is given up unless others are given. -/
def Options.standardTimeout : Amount := .double (.ofQuotient false 30 1)

def Options.standard : Options := ⟨none, false, standardTimeout.toValue, true⟩

def userAgent : String := "edge-search/0.3"

/-- A request on its way to an endpoint. -/
structure Sending where
  endpoint : String
  parameters : List (String × String)
  timeout : Value
  verify : Bool
deriving Repr

def Sending.headers (_ : Sending) : List (String × String) := [("User-Agent", userAgent)]

/-- A filter with what is needed to search with it. The hits are flattened as often
as `flattenings` says. -/
structure Searcher where
  filter : Filter
  options : Option Options
  flattenings : Nat
  registry : Option Registry
  count : Option Int
deriving Repr

namespace Searcher

/-- A searcher that has not searched yet. -/
def of (f : Filter) (options : Option Options) (flattenings : Nat) (registry : Option Registry) :
    Searcher :=
  ⟨f, options, flattenings, registry, none⟩

def request (s : Searcher) (offset size : Int) : Except Failure Request :=
  Request.ofFilter s.registry s.filter offset size

/-- The text of the request for a page of results. -/
def queryString (s : Searcher) (offset size : Int) : Except Failure String := do
  let r ← s.request offset size
  if r.isWritable then return r.queryString else throw .notWritable

/-- The endpoint and the options with which it is reached. -/
def destination (s : Searcher) : Except Failure (String × Options) :=
  match s.options with
  | none => .error .noOptions
  | some o =>
    match o.endpoint with
    | none => .error .noEndpoint
    | some endpoint => if endpoint = "" then .error .noEndpoint else .ok (endpoint, o)

/-- What is sent for a page of results. -/
def sending (s : Searcher) (offset size : Int) : Except Failure Sending := do
  let (endpoint, o) ← s.destination
  let r ← s.request offset size
  if r.isWritable then return ⟨endpoint, r.parameters, o.timeout, o.verify⟩
  else throw .notWritable

/-- Flatten results a number of times. -/
def flatten : Nat → Value → Except Failure Value
  | 0, results => .ok results
  | n + 1, results => do flatten n (.list (← records results))

/-- The results that are made of hits. -/
def results (s : Searcher) (hits : Value) : Except Failure (List Value) := do
  let hits ← if s.options.any Options.idsOnly then (ids hits).map .list else .ok hits
  items (← flatten s.flattenings hits)

/-- The searcher after an answer, and the results. -/
def receive (s : Searcher) (a : Answer) : Searcher × Except Failure (List Value) :=
  match a.document.bind found with
  | .error e => (s, .error e)
  | .ok (hits, n) =>
    let s := { s with count := some n }
    (s, if n = 0 then .ok [] else s.results (listed hits))

def addFlattening (s : Searcher) : Searcher := { s with flattenings := s.flattenings + 1 }

def setOptions (s : Searcher) (options : Option Options) : Searcher := { s with options }

def addQuery (s : Searcher) (query : String) : Searcher :=
  { s with filter := s.filter.addQuery query }

end Searcher

end FieldedSearch.Search
