-- SUMMARY: Using a searcher step by step, with results that are taken one at a time.
import FieldedSearch.Search.Searcher

/-!
# Sessions

A session is a searcher in use, together with the answers that the backend is still
to give and the results of searches that are kept to be taken one at a time. What is
kept is known by a number, in the order in which it was kept, and changes only by what
is taken from it. A step sends at most one request.
-/

namespace FieldedSearch.Search

/-- A searcher in use, with what is left of the results that are kept under each number. -/
structure Session where
  searcher : Searcher
  answers : List Answer
  kept : List (List Value)

/-- One use of a searcher. -/
inductive Step
  | query (offset size : Int)
  | get (offset size : Int)
  | keep (offset size : Int)
  | next (number : Nat)
  | addQuery (query : String)
  | addFlattening
  | setOptions (options : Option Options)

/-- What a step gives. -/
inductive Outcome
  | nothing
  | query (text : String)
  | results (vs : List Value)
  | item (v : Value)
  | exhausted
  | failed (e : Failure)

/-- A step with what it gives, what it sends, and the session after it. -/
structure Taken where
  outcome : Outcome
  sent : List Sending
  session : Session

namespace Session

def of (searcher : Searcher) (answers : List Answer) : Session := ⟨searcher, answers, []⟩

/-- Search, and let `use` say what becomes of the results. -/
def search (s : Session) (offset size : Int) (use : List Value → Session → Outcome × Session) :
    Taken :=
  match s.searcher.sending offset size with
  | .error e => ⟨.failed e, [], s⟩
  | .ok sending =>
    let (searcher, results) := s.searcher.receive (s.answers.headD default)
    let s := { s with searcher, answers := s.answers.drop 1 }
    match results with
    | .error e => ⟨.failed e, [sending], s⟩
    | .ok vs =>
      let (outcome, s) := use vs s
      ⟨outcome, [sending], s⟩

/-- Change the searcher and nothing else. -/
def change (s : Session) (f : Searcher → Searcher) : Taken :=
  ⟨.nothing, [], { s with searcher := f s.searcher }⟩

/-- Change the filter, which may fail. -/
def changeFilter (s : Session) (f : Filter → Filter × Option Failure) : Taken :=
  let (filter, failure) := f s.searcher.filter
  ⟨failure.elim .nothing .failed, [], { s with searcher := { s.searcher with filter } }⟩

def take (s : Session) : Step → Taken
  | .query offset size =>
    match s.searcher.queryString offset size with
    | .ok text => ⟨.query text, [], s⟩
    | .error e => ⟨.failed e, [], s⟩
  | .get offset size => s.search offset size fun vs s => (.results vs, s)
  | .keep offset size =>
    s.search offset size fun vs s => (.nothing, { s with kept := s.kept ++ [vs] })
  | .next number =>
    match s.kept.getD number [] with
    | v :: rest => ⟨.item v, [], { s with kept := s.kept.set number rest }⟩
    | [] => ⟨.exhausted, [], s⟩
  | .addQuery query => s.change (·.addQuery query)
  | .addFlattening => s.change Searcher.addFlattening
  | .setOptions options => s.change (·.setOptions options)

def run (s : Session) : List Step → List Taken
  | [] => []
  | step :: rest =>
    let taken := s.take step
    taken :: run taken.session rest

end Session

end FieldedSearch.Search
