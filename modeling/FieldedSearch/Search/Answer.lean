-- SUMMARY: Answers of the backend, and the number of hits that one reports.
import FieldedSearch.Failure
import FieldedSearch.Json.Reader

/-!
# Answers

A request is answered with a status and a body, or not at all. A status from 400 to
599 rejects the request. Any other body has to be JSON, and to report under `hits`
the number of hits `found`: a whole number, a truth value, a number whose fraction
is cut off, or a numeral.
-/

namespace FieldedSearch.Search

/-- What comes back for a request. -/
inductive Answer
  | unreachable (reason : String)
  | received (status : Int) (body : String)
deriving Repr, Inhabited

def isRejection (status : Int) : Bool := 400 ≤ status && status < 600

/-- The document that an answer carries. -/
def Answer.document : Answer → Except Failure Value
  | .unreachable reason => .error (.backend (.unreachable reason))
  | .received status body =>
    if isRejection status then .error (.backend (.rejected status body))
    else
      match Json.read body with
      | .ok v => .ok v
      | .error .malformed => .error (.backend (.notJson status body))
      | .error .tooDeep => .error .tooDeep

/-- The status with which the backend rejects a request, if it does. -/
def Answer.rejection? : Answer → Option Int
  | .received status _ => if isRejection status then some status else none
  | _ => none

private def irregular (cause : Irregularity) : Failure := .backend (.irregular cause)

/-- What stands under a name in a part of a document. -/
def lookup (name : String) : Value → Except Failure Value
  | .map entries =>
    match Entries.get? entries name with
    | some v => .ok v
    | none => .error (irregular (.missing name))
  | v => .error (irregular (.notATable v))

/-- A value as a number of hits. -/
def count : Value → Except Failure Int
  | .bool b => .ok (if b then 1 else 0)
  | .int n => .ok n
  | .float .nan => .error (irregular .notANumber)
  | .float x =>
    match x.truncate? with
    | some n => .ok n
    | none => .error .tooLarge
  | .text s =>
    match Text.Integer.read s.toList with
    | .ok n => .ok n
    | .error .malformed => .error (irregular (.notANumeral s))
    | .error (.tooLong digits) => .error (irregular (.numeralTooLong digits))
  | v => .error (irregular (.notACount v))

/-- The table of hits in a document, and the number of hits it reports. -/
def found (document : Value) : Except Failure (Value × Int) := do
  let hits ← lookup "hits" document
  let n ← count (← lookup "found" hits)
  return (hits, n)

/-- The hits in a table of hits; there are none unless it lists some. -/
def listed : Value → Value
  | .map entries => (Entries.get? entries "hit").getD (.list [])
  | _ => .list []

end FieldedSearch.Search
