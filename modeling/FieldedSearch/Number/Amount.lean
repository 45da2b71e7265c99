-- SUMMARY: Numbers as settings give them: whole or double.
import FieldedSearch.Value

/-!
# Amounts
-/

namespace FieldedSearch

/-- A number that is kept as it was given. -/
inductive Amount
  | whole (n : Int)
  | double (x : Double)
deriving DecidableEq, Repr, Inhabited

namespace Amount

def toValue : Amount → Value
  | whole n => .int n
  | double x => .float x

def ofValue? : Value → Option Amount
  | .int n => some (whole n)
  | .float x => some (double x)
  | _ => none

def isNonPositive : Amount → Bool
  | whole n => n ≤ 0
  | double x => x.isNonPositive

@[simp] theorem ofValue?_toValue (a : Amount) : ofValue? a.toValue = some a := by
  cases a <;> rfl

end Amount

end FieldedSearch
