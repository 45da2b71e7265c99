-- SUMMARY: Settings files: finding, reading and writing them.
import FieldedSearch.Directory
import FieldedSearch.Settings
import FieldedSearch.Toml.Printer
import FieldedSearch.Toml.Reader

/-!
# Settings files

Settings are kept in a TOML document. Without a path it lies in the configuration
directory below the home directory. A document that is not there gives the standard
settings, with a warning.
-/

namespace FieldedSearch.Settings

/-- The path at which settings are kept unless another one is given. -/
def defaultPath (p : Place) : Except Failure Path :=
  (p.homeOf []).map (·.append [".config", "edge-search", "config.toml"])

def location (p : Place) (path : Option String) : Except Failure Location := do
  p.locate (← path.elim (defaultPath p) fun path => .ok (Path.ofText path))

/-- Checked settings, with the registry of their fields and the warnings. -/
structure Loaded where
  settings : Settings
  registry : Registry
  warnings : List String

/-- Check settings and put the warnings they call for behind others. -/
def accept (warnings : List String) (s : Settings) : Except Failure Loaded := do
  let r ← s.check
  return ⟨s, r, warnings ++ s.warnings r⟩

/-- The settings that a table gives, checked. -/
def acceptTable (path : Option String) (table : List (String × Value)) : Except Failure Loaded := do
  accept [] (← ofTable path table)

-- ---------------------------------------------------------------------------
-- Reading
-- ---------------------------------------------------------------------------

def readDocument (path text : String) : Except Failure (List (String × Value)) :=
  match Toml.read text with
  | .ok table => .ok table
  | .error .malformed => .error (.invalidDocument path)
  | .error (.numeralTooLong digits) => .error (.numeralTooLong digits)
  | .error .tooDeep => .error .tooDeep

/-- The warning that there is no document. -/
def missingText (path : String) : String :=
  s!"No config file found at {path}. Using defaults. Create config with: edge-search init-config"

/-- The settings in what there is at a location. -/
def load (l : Location) : FileState → Except Failure Loaded
  | .absent => accept [missingText l.write] standard
  | .directory => .error (.isDirectory l.write)
  | .file content =>
    match String.fromUTF8? content with
    | none => .error (.notUtf8 l.write)
    | some text => do acceptTable (some l.write) (← readDocument l.write text)

-- ---------------------------------------------------------------------------
-- Writing
-- ---------------------------------------------------------------------------

/-- Settings that are put together from any values and have not been checked. -/
structure Draft where
  endpoint : Value
  idsOnly : Value
  timeout : Value
  verify : Value
  pageSize : Value
  colored : Value
  fields : Value
  defaults : Value
  path : Option String

def draft (s : Settings) : Draft where
  endpoint := s.endpoint.elim .null .text
  idsOnly := .bool s.idsOnly
  timeout := s.timeout.toValue
  verify := .bool s.verify
  pageSize := .int s.pageSize
  colored := .bool s.colored
  fields := .map s.fields
  defaults := .map s.defaults
  path := s.path

namespace Draft

/-- A section, left out if it says nothing. -/
private def sectionEntry (name : String) (v : Value) : List (String × Value) :=
  if v.countsAsTrue then [(name, v)] else []

/-- The entry for the endpoint, if there is one. -/
private def endpointEntry : Value → List (String × Value)
  | .null => []
  | v => [("search_endpoint", v)]

/-- The table that gives settings. Fields and defaults are left out if there are
none. -/
def toTable (d : Draft) : List (String × Value) :=
  [("cloudsearch", .map ([("return_id_results", d.idsOnly), ("timeout", d.timeout),
      ("verify_ssl", d.verify)] ++ endpointEntry d.endpoint)),
    ("search", .map [("page_size", d.pageSize)]),
    ("display", .map [("colored_output", d.colored)])] ++
  sectionEntry "fields" d.fields ++ sectionEntry "defaults" d.defaults

/-- The document that gives settings. There is none for null, and none for a value that has
no text. -/
def document (d : Draft) : Except Failure String :=
  let v := Value.map d.toTable
  match Toml.write? d.toTable with
  | some text => if v.isWritable then .ok text else .error (.unwritable v)
  | none => .error .wrongKind

/-- Where settings are saved: at the given path, or where they are from. -/
def location (p : Place) (d : Draft) (path : Option String) : Except Failure Location :=
  Settings.location p (path <|> d.path)

/-- Save settings at a location. The file is there, and empty, before anything is
written to it. -/
def save (files : Directory) (d : Draft) (l : Location) : Directory × Option Failure :=
  match files.write l .empty with
  | (files, some e) => (files, some e)
  | (files, none) =>
    match d.document with
    | .error e => (files, some e)
    | .ok text => files.put l text.toUTF8

end Draft

def toTable (s : Settings) : List (String × Value) := s.draft.toTable

def document (s : Settings) : Except Failure String := s.draft.document

end FieldedSearch.Settings
