-- SUMMARY: Filters: grouped constraints, keywords and a sort over the fields of a registry.
import FieldedSearch.Constraint
import FieldedSearch.Registry
import FieldedSearch.SortOrder

/-!
# Filters

A filter collects what is searched for. Group 0 holds the constraints that all have
to hold; of every other group one has to. Only registered fields are constrained.
The words `sort` and `order`, unless they are registered, set the sort instead; any
other field is passed over.
-/

namespace FieldedSearch

/-- What is searched for, and how the results are sorted. -/
structure Filter where
  registry : Registry
  groups : Groups
  keywords : Option String
  sortField : Option String
  sortOrder : SortOrder
deriving Repr

namespace Filter

/-- The filter that matches everything. -/
def empty (r : Registry) : Filter := ⟨r, [], none, none, .descending⟩

/-- The field whose value names the field to sort by. -/
def sortWord : String := "sort"

/-- The field whose value is the sort order. -/
def orderWord : String := "order"

def hasField (f : Filter) : Value → Bool
  | .text name => f.registry.contains name
  | _ => false

def constraints (f : Filter) (field : String) (group : Int) : List Constraint :=
  f.groups.constraints group field

-- ---------------------------------------------------------------------------
-- Adding constraints
-- ---------------------------------------------------------------------------

/-- The effect of a constraint on a field that is not registered. -/
def direct (f : Filter) (field : String) (value : Value) : Filter :=
  if field = sortWord then
    match value with
    | .text name => if f.registry.contains name then { f with sortField := some name } else f
    | _ => f
  else if field = orderWord then { f with sortOrder := .ofValue value }
  else f

def insert (f : Filter) (field : String) (c : Constraint) (group : Int) : Filter :=
  if f.registry.contains field then
    { f with groups := f.groups.update group (·.add field c) }
  else f.direct field c.value

/-- Add a constraint whose comparison and group are still to be checked. They are
checked only for a registered field, the comparison first. -/
def add (f : Filter) (field : String) (value comparison : Value) (isDefault : Bool) (group : Int) :
    Except Failure Filter :=
  if f.registry.contains field then
    match Comparison.ofValue comparison with
    | .error e => .error e
    | .ok c =>
      if group < 0 then .error (.negativeGroup group)
      else .ok (f.insert field ⟨value, c, isDefault⟩ group)
  else .ok (f.direct field value)

/-- Add a constraint on a field that may be any value; only a text can be a field. -/
def addTo (f : Filter) (field value comparison : Value) (isDefault : Bool) (group : Int) :
    Except Failure Filter :=
  match field with
  | .text name => f.add name value comparison isDefault group
  | _ => .ok f

/-- The comparison of a constraint unless another is given. -/
def defaultComparison : Value := .text Comparison.equals.symbol

/-- The value and the comparison of a default: both from a map, or a plain value that
is compared for equality. -/
def defaultParts : Value → Value × Value
  | .map table =>
    ((Entries.get? table "value").getD .null,
      (Entries.get? table "comparison").getD defaultComparison)
  | v => (v, defaultComparison)

/-- Add defaults to group 0, up to the first that is refused. -/
def addDefaults (f : Filter) : List (String × Value) → Filter × Option Failure
  | [] => (f, none)
  | (field, entry) :: rest =>
    let (value, comparison) := defaultParts entry
    match f.add field value comparison true 0 with
    | .ok f' => addDefaults f' rest
    | .error e => (f, some e)

def clear (f : Filter) : Filter := { f with groups := [] }

def clearGroup (f : Filter) (group : Int) : Filter :=
  { f with groups := f.groups.update group fun _ => [] }

-- ---------------------------------------------------------------------------
-- Keywords and sort
-- ---------------------------------------------------------------------------

def setKeywords (f : Filter) (keywords : Option String) : Filter := { f with keywords }

/-- Sort by a registered field. -/
def setSort (f : Filter) (field : String) (order : Value) : Except Failure Filter :=
  if f.registry.contains field then
    .ok { f with sortField := some field, sortOrder := .ofValue order }
  else .error (.invalidSortField field)

/-- Sort by a field that may be any value; only a text can be a field. -/
def setSortBy (f : Filter) (field order : Value) : Except Failure Filter :=
  match field with
  | .text name => f.setSort name order
  | v => .error (.invalidSortField v.display)

/-- Sort by no field. The order stays. -/
def clearSort (f : Filter) : Filter := { f with sortField := none }

end Filter

end FieldedSearch
