-- SUMMARY: How filters, queries and results are shown.
import FieldedSearch.CommandLine.Command
import FieldedSearch.CommandLine.Transcript
import FieldedSearch.Json.Printer
import FieldedSearch.Search.Problem
import FieldedSearch.Settings.File
import FieldedSearch.Text.UrlEncoded

/-!
# Reports

A filter is shown as a table with a row for every constraint, or as JSON. A query is
shown as its parameters, encoded for a URL or as they are. Results are shown as a
table with a column for every name in a record, as ids, or as JSON. The failures that
a user of the program can cause are reported; the run ends with an exit code that
says whether the query, the settings or the backend are to blame.
-/

namespace FieldedSearch.CommandLine

/-- The exit code for a search string that cannot be translated. -/
def queryError : Nat := 1

/-- The exit code for settings that cannot be used. -/
def settingsError : Nat := 2

/-- The exit code for a backend that does not answer as it should. -/
def backendError : Nat := 3

-- ---------------------------------------------------------------------------
-- Filters
-- ---------------------------------------------------------------------------

/-- The filter for a search string, over the defaults unless they are not wanted. It has
to be one that can be written. -/
def buildFilter (loaded : Settings.Loaded) (query : String) (defaults : Bool) :
    Except Failure Filter :=
  let f := Filter.empty loaded.registry
  match f.addDefaults (if defaults then loaded.settings.defaults else []) with
  | (_, some e) => .error e
  | (f, none) => (f.addQuery query).ifWritable

/-- The entries that describe a constraint. -/
def constraintValue (c : Constraint) : Value :=
  .map [("value", c.value), ("comparison", .text c.comparison.name),
    ("symbol", .text c.comparison.symbol), ("default", .bool c.isDefault)]

private def optionalText (s : Option String) : Value := s.elim .null .text

def groupText (group : Int) : String := String.ofList (Text.decimalInt group)

def groupValue (fields : FieldConstraints) : Value :=
  .map (fields.map fun (field, cs) => (field, .list (cs.map constraintValue)))

def filterValue (f : Filter) : Value :=
  .map [("groups", .map (f.groups.map fun (group, fields) => (groupText group, groupValue fields))),
    ("keywords", optionalText f.keywords), ("sort", optionalText f.sortField),
    ("order", .text f.sortOrder.word), ("query", .text f.toQuery)]

def constraintRow (group : Int) (field : String) (c : Constraint) : List String :=
  [if group = 0 then "AND" else "OR " ++ groupText group, field, c.comparison.symbol,
    Query.encodeValue c.value, if c.isDefault then "yes" else ""]

def constraintRows (groups : Groups) : List (List String) :=
  groups.flatMap fun (group, fields) => fields.flatMap fun (field, cs) =>
    cs.map (constraintRow group field)

def constraintColumns : List Terminal.Column :=
  [⟨"Group", true, false⟩, ⟨"Field", false, false⟩, ⟨"Op", false, false⟩,
    ⟨"Value", false, false⟩, ⟨"Default", false, false⟩]

namespace Transcript

/-- Print the document for a value of which there is a text. -/
def writeJson (t : Transcript) (v : Value) : Transcript :=
  if v.isWritable then t.writeLine (Json.write v) else t.fail (.unwritable v)

/-- Print a message for each text there is. -/
private def infoAll (t : Transcript) (messages : List String) : Transcript :=
  messages.foldl info t

def showFilter (t : Transcript) (format : Format) (f : Filter) : Transcript :=
  if format = .json then t.writeJson (filterValue f)
  else
    (t.table constraintColumns (constraintRows f.groups)).infoAll
      ((f.keywords.elim [] fun k => ["Keywords: " ++ k]) ++
        (f.sortField.elim [] fun s => ["Sort: " ++ s ++ " (" ++ f.sortOrder.word ++ ")"]) ++
        ["Query: " ++ f.toQuery])

/-- Show a query, or why there is none. -/
def showRequest (t : Transcript) (encode : Bool) : Except Failure Request → Transcript
  | .ok r =>
    if r.isWritable then
      t.writeLine (if encode then Text.urlEncoded r.parameters else r.queryString)
    else t.fail .notWritable
  | .error e =>
    if e.category = .query then (t.error e.message).exit queryError else t.fail e

end Transcript

-- ---------------------------------------------------------------------------
-- Results
-- ---------------------------------------------------------------------------

/-- The exit code for a failure of a search that is reported. -/
def searchExitCode? (e : Failure) : Option Nat :=
  match e.category with
  | .query => some queryError
  | .searchSettings => some settingsError
  | .backend => some backendError
  | _ => none

/-- A result as a record; one that is none is an id. -/
def record : Value → List (String × Value)
  | .map entries => entries
  | v => [(Search.idName, v)]

/-- The text of a value in a table. -/
def cellText : Value → String
  | .null => ""
  | .list items => ", ".intercalate (items.map Value.display)
  | v => v.display

/-- The names in records, in the order in which they first appear. -/
def recordNames (records : List (List (String × Value))) : List String :=
  (records.flatMap Entries.names).foldl
    (fun names name => if names.contains name then names else names ++ [name]) []

def recordRow (names : List String) (record : List (String × Value)) : List String :=
  names.map fun name => cellText ((Entries.get? record name).getD .null)

/-- The id of a result. -/
def resultId : Value → Except Failure Value
  | .map entries => Search.hitId (.map entries)
  | v => .ok v

def idText : Value → String
  | .null => ""
  | v => v.display

namespace Transcript

/-- Show the ids of results, one on a line. -/
def showIds (t : Transcript) (results : List Value) : Transcript :=
  results.foldl (fun t v =>
    match resultId v with
    | .ok id => t.writeLine (idText id)
    | .error e => t.fail e) t

def showTable (t : Transcript) (query : String) (count offset : Int) (results : List Value) :
    Transcript :=
  if results.isEmpty then t.info ("No results for: " ++ query)
  else
    let records := results.map record
    let names := recordNames records
    let range := groupText (offset + 1) ++ "-" ++ groupText (offset + results.length)
    (t.info ("Search: " ++ query ++ " (" ++ range ++ " of " ++ groupText count ++ ")")).table
      (names.map fun name => ⟨name, false, name = Search.idName⟩) (records.map (recordRow names))

def showResults (t : Transcript) (format : Format) (query : String) (count offset : Int)
    (results : List Value) : Transcript :=
  match format with
  | .json => t.writeJson (.map [("count", .int count), ("results", .list results)])
  | .ids => t.showIds results
  | .table => t.showTable query count offset results

/-- What may help against a failure of a search. -/
private def hintFor (t : Transcript) (e : Failure) : Transcript :=
  if e.category = .searchSettings then t.hint "Set cloudsearch.search_endpoint in the config file"
  else t

/-- Show a failure of a search: as a problem document where JSON is wanted. -/
def showSearchFailure (t : Transcript) (format : Format) (e : Failure) : Transcript :=
  match searchExitCode? e with
  | none => t.fail e
  | some code =>
    (if format = .json then t.writeLine (Json.write (Search.Problem.of e).toValue)
      else (t.error e.message).hintFor e).exit code

/-- Tell that the backend rejected a request. -/
def showRejection (t : Transcript) (a : Search.Answer) : Transcript :=
  match a.rejection? with
  | some status => t.complain ("CloudSearch returned HTTP " ++ groupText status ++ "\n")
  | none => t

end Transcript

end FieldedSearch.CommandLine
