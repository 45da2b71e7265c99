-- SUMMARY: The time of day, and how far a zone is ahead of UTC.
import FieldedSearch.Text.Integer

/-!
# Clock times and zone offsets
-/

namespace FieldedSearch

/-- A time of day, to the microsecond. -/
structure Clock where
  hour : Nat
  minute : Nat
  second : Nat
  microsecond : Nat
  valid : hour < 24 ∧ minute < 60 ∧ second < 60 ∧ microsecond < 1000000
deriving DecidableEq, Repr

/-- How far the local time of a zone is ahead of UTC: less than a day either way. -/
structure Offset where
  microseconds : Int
  bounded : microseconds.natAbs < 86400000000
deriving DecidableEq, Repr

/-- The part of a second behind the point, if there is any. -/
def writeMicrosecond (n : Nat) : List Char := if n = 0 then [] else '.' :: Text.padded 6 n

namespace Clock

/-- The time with the given numbers, if there is one. -/
def of? (hour minute second microsecond : Nat) : Option Clock :=
  if h : hour < 24 ∧ minute < 60 ∧ second < 60 ∧ microsecond < 1000000 then
    some ⟨hour, minute, second, microsecond, h⟩
  else none

def midnight : Clock := ⟨0, 0, 0, 0, by decide⟩

def sinceMidnight (t : Clock) : Nat :=
  ((t.hour * 60 + t.minute) * 60 + t.second) * 1000000 + t.microsecond

/-- A time as `HH:MM:SS`, with six places behind the point unless it is a whole
second. -/
def write (t : Clock) : List Char :=
  Text.padded 2 t.hour ++ ':' :: Text.padded 2 t.minute ++ ':' :: Text.padded 2 t.second ++
    writeMicrosecond t.microsecond

end Clock

namespace Offset

/-- The offset of the given size, if it is less than a day. -/
def of? (microseconds : Int) : Option Offset :=
  if h : microseconds.natAbs < 86400000000 then some ⟨microseconds, h⟩ else none

def utc : Offset := ⟨0, by decide⟩

/-- An offset as `+HH:MM`, with seconds and their fraction only where there are
any. -/
def write (o : Offset) : List Char :=
  let n := o.microseconds.natAbs
  let seconds := n / 1000000
  let fraction := writeMicrosecond (n % 1000000)
  let tail := if seconds % 60 = 0 ∧ fraction = [] then []
    else ':' :: Text.padded 2 (seconds % 60) ++ fraction
  (if o.microseconds < 0 then '-' else '+') :: Text.padded 2 (seconds / 3600) ++
    ':' :: Text.padded 2 (seconds / 60 % 60) ++ tail

end Offset

end FieldedSearch
