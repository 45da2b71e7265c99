-- SUMMARY: Preparing the values of constraints for the backend, dates as timestamps.
import FieldedSearch.Calendar.Iso8601
import FieldedSearch.Failure

/-!
# Prepared values

A date becomes the seconds from the beginning of 1970; a number is taken for such
seconds, and a text may be either, or a date in a notation of ISO 8601. A truth
value becomes `1` or `0`, and what is missing or blank becomes `0`. A value of which
there is no text cannot be prepared.
-/

namespace FieldedSearch.BooleanQuery

/-- The timestamp that a text denotes, if it is not blank. -/
def textTimestamp (field : String) (text : List Char) : Except Failure (Option Int) :=
  let s := Text.trim text
  if s = [] then .ok none
  else
    match Text.Integer.read? s with
    | some n => .ok (some n)
    | none =>
      match Iso8601.read? s with
      | some t => .ok (some t.timestamp)
      | none => .error (.invalidDate field (String.ofList s))

/-- The timestamp of a value, if it has one. -/
def timestamp (field : String) : Value → Except Failure (Option Int)
  | .null => .ok none
  | .bool _ => .ok none
  | .int n => .ok (some n)
  | .float .nan => .error .notANumber
  | .float (.infinite _) => .error .tooLarge
  | .float x => .ok x.truncate?
  | .dateTime t => .ok (some t.timestamp)
  | .date d => .ok (some (DateTime.startOf d).timestamp)
  | v => if v.isWritable then textTimestamp field v.display.toList else .error (.unwritable v)

/-- The text of a value other than a date in a query. -/
def prepareText : Value → String
  | .null => "0"
  | .bool b => if b then "1" else "0"
  | v => if Text.isBlankText v.display.toList then "0" else v.display

/-- What of a value goes into a query: of a date its timestamp. -/
def reduced (field : String) (value : Value) : ValueType → Except Failure Value
  | .date => (timestamp field value).map fun t => t.elim .null .int
  | _ => .ok value

/-- The text of a value in a query. -/
def prepare (field : String) (value : Value) (type : ValueType) : Except Failure String := do
  let value ← reduced field value type
  if value.isWritable then return prepareText value else throw (.unwritable value)

end FieldedSearch.BooleanQuery
