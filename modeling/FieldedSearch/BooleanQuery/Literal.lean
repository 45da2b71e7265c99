-- SUMMARY: Quoting texts for boolean queries.

/-!
# Literals

A literal stands between single quotes. Inside it, backslashes and quotes of both
kinds have a backslash in front, and the character NUL is written as a backslash and
a nought.
-/

namespace FieldedSearch.BooleanQuery

def escapeChar (c : Char) : List Char :=
  if c = '\\' ∨ c = '\'' ∨ c = '"' then ['\\', c]
  else if c = '\x00' then ['\\', '0']
  else [c]

/-- A text inside a literal. -/
def escape (s : String) : String := String.ofList (s.toList.flatMap escapeChar)

def literal (s : String) : String := "'" ++ escape s ++ "'"

end FieldedSearch.BooleanQuery
