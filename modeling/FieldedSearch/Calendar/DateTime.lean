-- SUMMARY: A date with a time of day, its instant, and its timestamp.
import FieldedSearch.Calendar.Date
import FieldedSearch.Calendar.Clock
import FieldedSearch.Number.Double

/-!
# Dates with a time

A date with a time may name its offset from UTC; without one it is read as UTC.
Its instant is exact. Its timestamp goes through a double of seconds, so that close
to the end of the calendar a fraction of a second may be rounded up before it is
cut off.
-/

namespace FieldedSearch

/-- A date and a time of day, with an offset from UTC or none. -/
structure DateTime where
  date : Date
  clock : Clock
  offset : Option Offset
deriving DecidableEq, Repr

namespace DateTime

/-- The beginning of a day, without an offset. -/
def startOf (d : Date) : DateTime := ⟨d, .midnight, none⟩

/-- The microseconds from the beginning of 1970 in UTC. -/
def instant (t : DateTime) : Int :=
  ((t.date.ordinal : Int) - Date.epoch) * 86400000000 + t.clock.sinceMidnight -
    (t.offset.elim 0 Offset.microseconds)

/-- The double nearest to the seconds from the beginning of 1970. -/
def seconds (t : DateTime) : Double := .ofQuotient (t.instant < 0) t.instant.natAbs 1000000

/-- The seconds from the beginning of 1970 without their fraction. -/
def timestamp (t : DateTime) : Int := t.seconds.truncate?.getD 0

/-- A date with a time, the two parted by the given character. -/
def write (separator : Char) (t : DateTime) : List Char :=
  t.date.write ++ separator :: t.clock.write ++ t.offset.elim [] Offset.write

end DateTime

end FieldedSearch
