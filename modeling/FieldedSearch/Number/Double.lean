-- SUMMARY: Double-precision numbers in exact integer arithmetic: rounding a quotient, and truncating to a whole number.
import FieldedSearch.Text.Integer

/-!
# Double-precision numbers

A finite number is `± significand · 2 ^ exponent`. The values that `ofQuotient`
builds are canonical: the significand has exactly 53 bits, or the exponent is the
least one and the significand has at most 53. Two canonical numbers are equal
only if they are the same number, except that nought has two signs.
-/

namespace FieldedSearch

/-- A number of the binary64 format. -/
inductive Double
  | nan
  | infinite (negative : Bool)
  | finite (negative : Bool) (significand : Nat) (exponent : Int)
deriving DecidableEq, Repr, Inhabited

namespace Double

/-- The exponent of the least positive number. -/
def minExponent : Int := -1074

/-- The exponent of the largest finite numbers. -/
def maxExponent : Int := 971

/-- Nought, of either sign. -/
def zero (negative : Bool) : Double := .finite negative 0 minExponent

-- ---------------------------------------------------------------------------
-- Powers
-- ---------------------------------------------------------------------------

/-- The numerator of `base ^ exponent`. -/
def scaleUp (base : Nat) (exponent : Int) : Nat := Nat.pow base exponent.toNat

/-- The denominator of `base ^ exponent`. -/
def scaleDown (base : Nat) (exponent : Int) : Nat := Nat.pow base (-exponent).toNat

-- ---------------------------------------------------------------------------
-- Rounding
-- ---------------------------------------------------------------------------

/-- The natural number nearest to `num / den`; of two that are equally near, the
even one. -/
def roundQuotient (num den : Nat) : Nat :=
  let q := num / den
  let r := num % den
  if 2 * r < den then q
  else if den < 2 * r then q + 1
  else if q % 2 = 0 then q else q + 1

/-- The largest `l` with `2 ^ l ≤ num / den`, for positive `num` and `den`. -/
def log2Quotient (num den : Nat) : Int :=
  let l : Int := num.log2 - den.log2
  if den * scaleUp 2 l ≤ num * scaleDown 2 l then l else l - 1

/-- The exponent of the number that `num / den` is rounded to, before a carry. -/
def quotientExponent (num den : Nat) : Int := max (log2Quotient num den - 52) minExponent

/-- A significand of at most 54 bits, the highest only as a carry, at its
exponent. -/
def assemble (negative : Bool) (significand : Nat) (exponent : Int) : Double :=
  let (m, e) :=
    if significand = Nat.pow 2 53 then (Nat.pow 2 52, exponent + 1) else (significand, exponent)
  if maxExponent < e then .infinite negative else .finite negative m e

/-- The number nearest to `± num / den`, a tie going to the even significand.
What is too large becomes infinite. -/
def ofQuotient (negative : Bool) (num den : Nat) : Double :=
  if num = 0 then zero negative
  else
    let e := quotientExponent num den
    assemble negative (roundQuotient (num * scaleDown 2 e) (den * scaleUp 2 e)) e

/-- The number nearest to `± digits · 10 ^ exponent`. -/
def ofDecimal (negative : Bool) (digits : Nat) (exponent : Int) : Double :=
  let size := (Text.decimal digits).length + exponent
  if digits = 0 then zero negative
  else if 310 < size then .infinite negative
  else if size < -330 then zero negative
  else ofQuotient negative (digits * scaleUp 10 exponent) (scaleDown 10 exponent)

/-- The number nearest to a whole number, unless it is too large. -/
def ofInt? (n : Int) : Option Double :=
  match ofQuotient (n < 0) n.natAbs 1 with
  | .infinite _ => none
  | x => some x

-- ---------------------------------------------------------------------------
-- Parts and order
-- ---------------------------------------------------------------------------

/-- The whole part, towards nought. -/
def truncate? : Double → Option Int
  | .finite negative m e =>
    let n : Int := (m * scaleUp 2 e / scaleDown 2 e : Nat)
    some (if negative then -n else n)
  | _ => none

/-- Whether a number is nought or below; not so for the number that is none. -/
def isNonPositive : Double → Bool
  | .nan => false
  | .infinite negative => negative
  | .finite negative m _ => negative || m == 0

end Double

end FieldedSearch
