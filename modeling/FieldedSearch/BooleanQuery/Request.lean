-- SUMMARY: The parameters of a request to the backend.
import FieldedSearch.BooleanQuery.Expression

/-!
# Requests

A request consists of a boolean query, free text, a field to rank by, and which
page of the results is wanted. Parameters that are not set are left out.
-/

namespace FieldedSearch

/-- The parameters of one request. -/
structure Request where
  booleanQuery : Option String
  freeText : Option String
  rank : Option String
  size : Int
  start : Int
deriving DecidableEq, Repr

namespace Request

/-- The number of results on a page unless another is given. -/
def defaultSize : Int := 10

/-- The request that asks for the first page of everything. -/
def blank : Request := ⟨none, none, none, defaultSize, 0⟩

private def optional (name : String) : Option String → List (String × String)
  | some value => [(name, value)]
  | none => []

/-- The parameters in the order in which they are sent. -/
def parameters (r : Request) : List (String × String) :=
  optional "bq" r.booleanQuery ++ optional "q" r.freeText ++ optional "rank" r.rank ++
    [("size", String.ofList (Text.decimalInt r.size)),
      ("start", String.ofList (Text.decimalInt r.start))]

/-- Whether the numbers among the parameters can be written. -/
def isWritable (r : Request) : Bool :=
  Text.Integer.isWritable r.size && Text.Integer.isWritable r.start

/-- The parameters as `name=value`, joined by `&`, as they are. -/
def queryString (r : Request) : String :=
  "&".intercalate (r.parameters.map fun (name, value) => name ++ "=" ++ value)

/-- The field to rank by, behind a minus sign if it is descending. -/
def rankOf (f : Filter) : Option String :=
  f.sortField.map fun field => (if f.sortOrder = .descending then "-" else "") ++ field

/-- The request for a page of the results of a filter. Fields are looked up in the
given registry, or else in that of the filter. -/
def ofFilter (registry : Option Registry) (f : Filter) (offset size : Int) :
    Except Failure Request :=
  if offset < 0 then .error (.negativeOffset offset)
  else if size ≤ 0 then .error (.nonPositivePageSize size)
  else do
    let booleanQuery ← BooleanQuery.ofFilter registry f
    return ⟨booleanQuery, f.keywords.map BooleanQuery.escape, rankOf f, size, offset⟩

end Request

end FieldedSearch
