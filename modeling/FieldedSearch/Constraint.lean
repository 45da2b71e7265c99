-- SUMMARY: Constraints on fields, the rule by which explicit ones replace defaults, and numbered groups of them.
import FieldedSearch.Comparison
import FieldedSearch.Value

/-!
# Constraints and groups

The constraints on one field of one group stand in a list. An explicit constraint
removes the defaults in its list before it is added to it; a default is only added.
Groups are kept in the order of their numbers, the fields of a group in the order in
which they were first constrained.
-/

namespace FieldedSearch

/-- A comparison of a field with a value, given explicitly or by default. -/
structure Constraint where
  value : Value
  comparison : Comparison
  isDefault : Bool
deriving DecidableEq, Repr

/-- The constraints on the fields of one group. -/
abbrev FieldConstraints := List (String × List Constraint)

def Constraint.addTo (c : Constraint) (cs : List Constraint) : List Constraint :=
  (if c.isDefault then cs else cs.filter (!·.isDefault)) ++ [c]

def FieldConstraints.add (field : String) (c : Constraint) (fields : FieldConstraints) :
    FieldConstraints :=
  Entries.update field (fun cs => c.addTo (cs.getD [])) fields

/-- Groups in ascending order of their numbers. -/
abbrev Groups := List (Int × FieldConstraints)

namespace Groups

/-- The fields of a group; a group that is not there has none. -/
def fields (groups : Groups) (group : Int) : FieldConstraints := (groups.lookup group).getD []

def constraints (groups : Groups) (group : Int) (field : String) : List Constraint :=
  (Entries.get? (groups.fields group) field).getD []

/-- Change the fields of a group, which comes into being if it is not there. -/
def update (group : Int) (f : FieldConstraints → FieldConstraints) : Groups → Groups
  | [] => [(group, f [])]
  | (g, fields) :: rest =>
    if g = group then (g, f fields) :: rest
    else if group < g then (group, f []) :: (g, fields) :: rest
    else (g, fields) :: update group f rest

/-- The highest number of a group, or -1 if there is none. -/
def highest (groups : Groups) : Int := (groups.map (·.1)).foldl max (-1)

end Groups

end FieldedSearch
