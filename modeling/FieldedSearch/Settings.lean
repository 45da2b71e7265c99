-- SUMMARY: The settings of a search, read from a table and checked.
import FieldedSearch.Number.Amount
import FieldedSearch.Registry.Table
import FieldedSearch.Search.Searcher

/-!
# Settings

Settings say how the backend is reached, how many results make a page, whether the
output is colored, which fields may be searched and which values they have by
default. What a table leaves out has its standard value.

A value of the wrong type is refused as it is read; whether numbers are positive,
fields well described and default comparisons known is checked afterwards. The check
also gives warnings of what is allowed but can hardly be meant.
-/

namespace FieldedSearch

/-- The settings of a search. -/
structure Settings where
  endpoint : Option String
  idsOnly : Bool
  timeout : Amount
  verify : Bool
  pageSize : Int
  colored : Bool
  fields : List (String × Value)
  defaults : List (String × Value)
  path : Option String

namespace Settings

/-- The settings that hold unless others are given. -/
def standard : Settings where
  endpoint := none
  idsOnly := false
  timeout := Search.Options.standardTimeout
  verify := true
  pageSize := Request.defaultSize
  colored := true
  fields := []
  defaults := []
  path := none

/-- The options with which the backend is reached. -/
def options (s : Settings) : Search.Options :=
  ⟨s.endpoint, s.idsOnly, s.timeout.toValue, s.verify⟩

-- ---------------------------------------------------------------------------
-- Reading
-- ---------------------------------------------------------------------------

/-- Whether a text stands somewhere in another. -/
def occursIn (part : List Char) : List Char → Bool
  | [] => part.isEmpty
  | c :: s => part.isPrefixOf (c :: s) || occursIn part s

/-- What a part of the settings gives for a key. A part ought to be a table. A text or a list
that does not have the key in it gives nothing; anything else is refused. -/
def entry? (part : Value) (key : String) : Except Failure (Option Value) :=
  match part with
  | .map entries => .ok (Entries.get? entries key)
  | .text s => if occursIn key.toList s.toList then .error .wrongKind else .ok none
  | .list items => if items.any (·.text? = some key) then .error .wrongKind else .ok none
  | _ => .error .wrongKind

/-- A text, or nothing for null. -/
def readEndpoint (key : String) : Value → Except Failure (Option String)
  | .text s => .ok (some s)
  | .null => .ok none
  | _ => .error (.invalidSetting key "must be a URL string or null")

def readBool (key : String) : Value → Except Failure Bool
  | .bool b => .ok b
  | _ => .error (.invalidSetting key "must be a boolean")

def readAmount (key : String) : Value → Except Failure Amount
  | .float x => .ok (.double x)
  | .int n =>
    match Double.ofInt? n with
    | some x => .ok (.double x)
    | none => .error .tooLarge
  | _ => .error (.invalidSetting key "must be a number")

def readInt (key : String) : Value → Except Failure Int
  | .int n => .ok n
  | _ => .error (.invalidSetting key "must be an integer")

def readTable (key reason : String) : Value → Except Failure (List (String × Value))
  | .map entries => .ok entries
  | _ => .error (.invalidSetting key reason)

/-- The value of a key of a section, or else the standard value. -/
def read {α : Type} (table : List (String × Value)) (name key : String)
    (reader : String → Value → Except Failure α) (standard : α) : Except Failure α := do
  match ← entry? ((Entries.get? table name).getD (.map [])) key with
  | some v => reader (name ++ "." ++ key) v
  | none => return standard

/-- The settings that a table gives, with the path it is from. -/
def ofTable (path : Option String) (table : List (String × Value)) : Except Failure Settings := do
  let endpoint ← read table "cloudsearch" "search_endpoint" readEndpoint standard.endpoint
  let idsOnly ← read table "cloudsearch" "return_id_results" readBool standard.idsOnly
  let timeout ← read table "cloudsearch" "timeout" readAmount standard.timeout
  let verify ← read table "cloudsearch" "verify_ssl" readBool standard.verify
  let pageSize ← read table "search" "page_size" readInt standard.pageSize
  let colored ← read table "display" "colored_output" readBool standard.colored
  let fields ← readTable "fields" "must be a table of field tables"
    ((Entries.get? table "fields").getD (.map []))
  let defaults ← readTable "defaults" "must be a table"
    ((Entries.get? table "defaults").getD (.map []))
  return { endpoint, idsOnly, timeout, verify, pageSize, colored, fields, defaults, path }

-- ---------------------------------------------------------------------------
-- Checking
-- ---------------------------------------------------------------------------

def registry (s : Settings) : Except Failure Registry := Registry.ofTable s.fields

/-- Check a default: its comparison has to be known. -/
def checkDefault (name : String) : Value → Except Failure Unit
  | .map entries =>
    let comparison := (Entries.get? entries "comparison").getD Filter.defaultComparison
    match Comparison.ofValue comparison with
    | .ok _ => .ok ()
    | .error _ => .error (.invalidSetting s!"defaults.{name}.comparison" "unknown comparison")
  | _ => .ok ()

/-- The warning of a default for a field that is not registered. -/
def ignoredText (name : String) : String :=
  s!"Default value for unknown search field '{name}' is ignored"

/-- The warnings of defaults for fields that are not registered. -/
def defaultWarnings (r : Registry) (defaults : List (String × Value)) : List String :=
  (defaults.filter fun (name, _) => !r.contains name).map fun (name, _) => ignoredText name

/-- The warnings that settings call for. -/
def warnings (s : Settings) (r : Registry) : List String :=
  (if s.endpoint.isNone then
    ["No CloudSearch endpoint configured (cloudsearch.search_endpoint)"] else []) ++
  (if s.fields.isEmpty then
    ["No search fields configured; all field constraints will be ignored"] else []) ++
  defaultWarnings r s.defaults

/-- Check settings. The result is the registry of their fields. -/
def check (s : Settings) : Except Failure Registry :=
  if s.pageSize ≤ 0 then .error (.invalidSetting "search.page_size" "must be positive")
  else if s.timeout.isNonPositive then
    .error (.invalidSetting "cloudsearch.timeout" "must be positive")
  else do
    let r ← s.registry
    s.defaults.forM fun (name, v) => checkDefault name v
    return r

end Settings

end FieldedSearch
