-- SUMMARY: The three types of fields, by which values are prepared for the backend.

/-!
# Types of fields
-/

namespace FieldedSearch

/-- How the values of a field are compared in the backend. -/
inductive ValueType
  | text
  | numeric
  | date
deriving DecidableEq, Repr, Inhabited

namespace ValueType

def word : ValueType → String
  | text => "text"
  | numeric => "numeric"
  | date => "date"

def all : List ValueType := [text, numeric, date]

def ofWord? (s : String) : Option ValueType := all.find? fun t => t.word == s

@[simp] theorem ofWord?_word (t : ValueType) : ofWord? t.word = some t := by
  cases t <;> decide

end ValueType

end FieldedSearch
