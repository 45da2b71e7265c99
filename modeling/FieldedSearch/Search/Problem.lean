-- SUMMARY: Failures as problem documents.
import FieldedSearch.Failure

/-!
# Problem documents

A problem document tells whoever sent a search what kind of failure it met. Its
status says who has to act: 400 the sender, 500 the operator, 502 the backend.
-/

namespace FieldedSearch.Search

/-- A failure in the form in which it is sent. -/
structure Problem where
  title : String
  status : Int
  detail : String
  backendStatus : Option Int
deriving DecidableEq, Repr

/-- The title and the status for a part of the work. -/
def Problem.heading : Category → String × Int
  | .backend => ("Search backend error", 502)
  | .searchSettings => ("Search not configured", 500)
  | .query | .filter | .registry => ("Invalid search", 400)
  | .settings | .search => ("Search error", 500)
  | .internal => ("Internal error", 500)

/-- The status of the answer that a failure reports. -/
def backendStatus : Failure → Option Int
  | .backend fault => fault.status
  | _ => none

def Problem.of (e : Failure) : Problem :=
  let (title, status) := heading e.category
  ⟨title, status, e.message, Search.backendStatus e⟩

def Problem.toValue (p : Problem) : Value :=
  .map ([("type", .text "about:blank"), ("title", .text p.title), ("status", .int p.status),
    ("detail", .text p.detail)] ++ (p.backendStatus.elim [] fun n => [("backend_status", .int n)]))

end FieldedSearch.Search
