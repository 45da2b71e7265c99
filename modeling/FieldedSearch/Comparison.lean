-- SUMMARY: The eight ways to compare a field with a value, each with its symbol.

/-!
# Comparisons

A comparison is written as a symbol. Some symbols begin another, so a reader has to
try them in the order of `Comparison.bySymbol`, in which a longer one comes first.
-/

namespace FieldedSearch

/-- How a field is compared with a value. -/
inductive Comparison
  | equals
  | notEquals
  | like
  | notLike
  | greater
  | greaterOrEqual
  | less
  | lessOrEqual
deriving DecidableEq, Repr, Inhabited

namespace Comparison

def symbol : Comparison → String
  | equals => ":"
  | notEquals => "!"
  | like => "~"
  | notLike => "!~"
  | greater => ">"
  | greaterOrEqual => ">="
  | less => "<"
  | lessOrEqual => "<="

def name : Comparison → String
  | equals => "equals"
  | notEquals => "not_equals"
  | like => "like"
  | notLike => "not_like"
  | greater => "greater"
  | greaterOrEqual => "greater_or_equal"
  | less => "less"
  | lessOrEqual => "less_or_equal"

/-- All comparisons in the order in which a reader tries their symbols. -/
def bySymbol : List Comparison :=
  [greaterOrEqual, lessOrEqual, notLike, equals, notEquals, like, greater, less]

def ofSymbol? (s : String) : Option Comparison := bySymbol.find? fun c => c.symbol == s

/-- A bound from below or above. -/
def isRange : Comparison → Bool
  | greater | greaterOrEqual | less | lessOrEqual => true
  | _ => false

/-- A comparison that excludes what it matches. -/
def isNegated : Comparison → Bool
  | notEquals | notLike => true
  | _ => false

@[simp] theorem ofSymbol?_symbol (c : Comparison) : ofSymbol? c.symbol = some c := by
  cases c <;> decide

theorem mem_bySymbol (c : Comparison) : c ∈ bySymbol := by
  cases c <;> decide

end Comparison

end FieldedSearch
