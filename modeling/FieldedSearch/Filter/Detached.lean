-- SUMMARY: Filters without a registry.
import FieldedSearch.Filter.Change

/-!
# Detached filters

A filter that has no registry cannot tell whether anything is a field. Whatever asks it
about a text fails; only what leaves fields alone works as ever. So it never has any
constraints, and a search string without terms can still give it keywords.
-/

namespace FieldedSearch.Filter.Detached

/-- A filter that has no registry. -/
def empty : Filter := Filter.empty .empty

/-- Whether a value is a field: not to be told of a text. -/
def hasField : Value → Except Failure Bool
  | .text _ => .error .wrongKind
  | _ => .ok false

/-- Add the parts of a search string, up to the first with a term. -/
def addParts (f : Filter) : List Query.Part → Filter × Option Failure
  | [] => (f, none)
  | p :: rest => if p.terms.isEmpty then addParts (f.addPart p) rest else (f, some .wrongKind)

def addQuery (f : Filter) (query : String) : Filter × Option Failure :=
  addParts f (Query.tokenize query)

def addDefaults (f : Filter) (defaults : List (String × Value)) : Filter × Option Failure :=
  (f, if defaults.isEmpty then none else some .wrongKind)

def change (f : Filter) : Change → Filter × Option Failure
  | .add field _ _ _ _ =>
    match hasField field with
    | .error e => (f, some e)
    | .ok _ => (f, none)
  | .addDefaults defaults => addDefaults f defaults
  | .addQuery query => addQuery f query
  | .setSort field order =>
    match hasField field with
    | .error e => (f, some e)
    | .ok _ => f.replaceBy (f.setSortBy field order)
  | c => f.change c

/-- The descriptor of a field: there is nothing to look it up in. -/
def resolve : Except Failure Descriptor := .error .notATable

end FieldedSearch.Filter.Detached
