-- SUMMARY: A search string taken apart: the terms and the remaining text of each group.
import FieldedSearch.Query.Group
import FieldedSearch.Query.Term

/-!
# Parts of a search string

The root is part 0; the groups are parts 1, 2, … in their order.
-/

namespace FieldedSearch.Query

/-- One group of a search string. -/
structure Part where
  group : Nat
  terms : List Term
  text : String
deriving DecidableEq, Repr

def Part.of (group : Nat) (s : List Char) : Part :=
  let (terms, left) := splitTerms s
  ⟨group, terms, String.ofList left⟩

/-- The parts of a search string that is not empty. -/
def parts (query : String) : List Part :=
  let (root, groups) := splitGroups query.toList
  (root :: groups).zipIdx.map fun (s, group) => Part.of group s

/-- The parts of a search string; the empty one has none. -/
def tokenize (query : String) : List Part := if query = "" then [] else parts query

end FieldedSearch.Query
