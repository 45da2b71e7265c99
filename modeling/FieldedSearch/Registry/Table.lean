-- SUMMARY: Registries from settings: a list of names, or a table of field tables.
import FieldedSearch.Registry

/-!
# Registries from tables

A field is described by the name of its index field, or by a table with `fields`
(one name or several, by default the name of the field itself) and `type`. The first
entry that is not of this form is reported, and of it the first of four faults: the
shape of the entry, the shape of `fields`, what `fields` holds, and `type`.
-/

namespace FieldedSearch

/-- The texts of a list that holds only texts. -/
def Value.texts? (items : List Value) : Option (List String) := items.mapM Value.text?

namespace Registry

/-- The index fields that `fields` names. -/
def physicalFields (key : String) : Value → Except Failure (List String)
  | .text name => .ok [name]
  | .list [] => .error (.invalidSetting (key ++ ".fields") "must be a string or a non-empty list")
  | .list items =>
    match Value.texts? items with
    | some names => .ok names
    | none => .error (.invalidSetting (key ++ ".fields") "must contain strings")
  | _ => .error (.invalidSetting (key ++ ".fields") "must be a string or a non-empty list")

/-- The type that `type` names. Anything else is refused, whether or not there is a text of it. -/
def fieldType (key : String) (value : Value) : Except Failure ValueType :=
  match value.text?.bind ValueType.ofWord? with
  | some type => .ok type
  | none =>
    .error (.invalidSetting (key ++ ".type")
      ("must be one of: " ++ ", ".intercalate (ValueType.all.map ValueType.word)))

/-- The descriptor of a field from its entry in the settings. -/
def describe (name : String) (entry : Value) : Except Failure Descriptor := do
  let key := "fields." ++ name
  let table ← match entry with
    | .text physical => .ok [("fields", Value.text physical)]
    | .map table => .ok table
    | _ => .error (.invalidSetting key "must be a table or a physical field name")
  let physical ← physicalFields key ((Entries.get? table "fields").getD (.text name))
  let type ← fieldType key ((Entries.get? table "type").getD (.text ValueType.text.word))
  Descriptor.of physical type

/-- A registry of text fields, each indexed under its own name. -/
def ofNames (names : List String) : Except Failure Registry :=
  names.foldlM (fun r name => do r.register name (← Descriptor.of [name] .text)) empty

/-- A registry of the fields of a table. -/
def ofTable (table : List (String × Value)) : Except Failure Registry :=
  table.foldlM (fun r (name, entry) => do r.register name (← describe name entry)) empty

/-- A registry from a list of names or a table. -/
def ofValue : Value → Except Failure Registry
  | .list items =>
    match Value.texts? items with
    | some names => ofNames names
    | none => .error .wrongKind
  | .map table => ofTable table
  | _ => .error .notATable

end Registry

end FieldedSearch
