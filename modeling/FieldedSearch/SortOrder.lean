-- SUMMARY: The two directions in which results are sorted.
import FieldedSearch.Value

/-!
# Sort orders
-/

namespace FieldedSearch

/-- The direction in which results are sorted. -/
inductive SortOrder
  | ascending
  | descending
deriving DecidableEq, Repr, Inhabited

namespace SortOrder

def word : SortOrder → String
  | ascending => "asc"
  | descending => "desc"

/-- Only the word `desc` sorts descending. -/
def ofValue : Value → SortOrder
  | .text s => if s = descending.word then descending else ascending
  | _ => ascending

@[simp] theorem ofValue_word (o : SortOrder) : ofValue (.text o.word) = o := by
  cases o <;> rfl

end SortOrder

end FieldedSearch
