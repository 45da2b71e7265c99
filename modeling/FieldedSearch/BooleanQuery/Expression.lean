-- SUMMARY: Filters as boolean queries.
import FieldedSearch.BooleanQuery.Literal
import FieldedSearch.BooleanQuery.Prepared
import FieldedSearch.Filter

/-!
# Boolean queries

A constraint is an expression over each of its index fields, all joined by `or` if
there are several. A query joins the constraints of group 0 and an `or` for each
further group by `and`. Groups without constraints do not appear, and a filter
without constraints has no query.

A bound is inclusive whether or not the comparison is strict.
-/

namespace FieldedSearch.BooleanQuery

def join (operator : String) (parts : List String) : String :=
  "(" ++ operator ++ " " ++ " ".intercalate parts ++ ")"

/-- The expression for one index field. The value is prepared already. -/
def fieldExpression (field physical : String) (comparison : Comparison) (type : ValueType)
    (value : String) : Except Failure String :=
  let quoted := type = .text
  match comparison with
  | .equals | .like =>
    .ok (if quoted then "(field " ++ physical ++ " " ++ literal value ++ ")"
      else physical ++ ":" ++ value)
  | .notEquals | .notLike =>
    .ok ("(not " ++ physical ++ ":" ++ (if quoted then literal value else value) ++ ")")
  | .greater | .greaterOrEqual =>
    if quoted then .error (.unsupportedComparison field comparison type)
    else .ok (physical ++ ":" ++ value ++ "..")
  | .less | .lessOrEqual =>
    if quoted then .error (.unsupportedComparison field comparison type)
    else .ok (physical ++ ":.." ++ value)

/-- The descriptor of a field that has to be in a registry. -/
def descriptor (registry : Option Registry) (field : String) : Except Failure Descriptor :=
  match registry.bind (·.find? field) with
  | some d => .ok d
  | none => .error (.unmappedField field)

def expression (registry : Option Registry) (field : String) (c : Constraint) :
    Except Failure String := do
  let d ← descriptor registry field
  let value ← prepare field c.value d.type
  let parts ← d.physical.mapM fun name => fieldExpression field name c.comparison d.type value
  match parts with
  | [part] => return part
  | parts => return join "or" parts

def groupExpressions (registry : Registry) (fields : FieldConstraints) :
    Except Failure (List String) :=
  (fields.flatMap fun (field, cs) => cs.map fun c => (field, c)).mapM fun (field, c) =>
    expression (some registry) field c

/-- What a group contributes to the query: its expressions, or one `or` of them. -/
def groupParts (registry : Registry) (group : Int) (fields : FieldConstraints) :
    Except Failure (List String) := do
  let parts ← groupExpressions registry fields
  return if group = 0 ∨ parts.isEmpty then parts else [join "or" parts]

/-- The query for a filter, by a registry of its own or another one. -/
def ofFilter (registry : Option Registry) (f : Filter) : Except Failure (Option String) := do
  let parts ← f.groups.mapM fun (group, fields) =>
    groupParts (registry.getD f.registry) group fields
  return if parts.flatten.isEmpty then none else some (join "and" parts.flatten)

end FieldedSearch.BooleanQuery
