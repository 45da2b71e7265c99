-- SUMMARY: The fewest decimal digits that read back as a given double.
import FieldedSearch.Number.Double

/-!
# Shortest decimals

A positive double is shown by the shortest decimal that is rounded back to it, and
by the nearest of those of that length; of two equally near ones the last digit is
even. If a grid of decimals holds a number that reads back, one of the two
neighbours of the double on that grid does, so only these are tried.
-/

namespace FieldedSearch

/-- The number `digits · 10 ^ exponent`. -/
structure Decimal where
  digits : Nat
  exponent : Int
deriving DecidableEq, Repr

namespace Decimal

/-- The same number with no nought as its last digit. -/
def normalize (d : Decimal) : Decimal :=
  if h : d.digits ≠ 0 ∧ d.digits % 10 = 0 then
    normalize ⟨d.digits / 10, d.exponent + 1⟩
  else d
termination_by d.digits
decreasing_by omega

end Decimal

namespace Double

/-- The largest `k` with `10 ^ k ≤ num / den`, for positive `num` and `den`. -/
def log10Quotient (num den : Nat) : Int :=
  let k : Int := (Text.decimal num).length - (Text.decimal den).length
  if den * scaleUp 10 k ≤ num * scaleDown 10 k then k else k - 1

/-- Whether a decimal is rounded to the given significand and exponent. -/
def readsBack (m : Nat) (e : Int) (d : Decimal) : Bool :=
  ofDecimal false d.digits d.exponent == .finite false m e

/-- The neighbour of `m · 2 ^ e` on the grid of multiples of `10 ^ g` that reads
back, the nearer one if both do. -/
def onGrid? (m : Nat) (e g : Int) : Option Decimal :=
  let num := m * scaleUp 2 e * scaleDown 10 g
  let den := scaleDown 2 e * scaleUp 10 g
  let below : Decimal := ⟨num / den, g⟩
  let above : Decimal := ⟨num / den + 1, g⟩
  match readsBack m e below, readsBack m e above with
  | true, true => some (if roundQuotient num den = num / den then below else above)
  | true, false => some below
  | false, true => some above
  | false, false => none

/-- The shortest decimal for a positive number. Seventeen digits always suffice. -/
def shortest (m : Nat) (e : Int) : Decimal :=
  let k := log10Quotient (m * scaleUp 2 e) (scaleDown 2 e)
  let found := (List.range 17).findSome? fun (n : Nat) => onGrid? m e (k - n)
  (found.getD ⟨m, e⟩).normalize

end Double

end FieldedSearch
