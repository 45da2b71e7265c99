-- SUMMARY: Reading dates and times in the notations of ISO 8601.
import FieldedSearch.Calendar.DateTime

/-!
# ISO 8601

A date is written `YYYY-MM-DD`, `YYYYMMDD`, `YYYY-Www-D`, `YYYYWwwD`, or as a week
without a day, which means its Monday. Behind it may stand one character of any
kind and a time: hour, minute and second of two digits each, with colons between
all of them or none, later ones left out; a fraction of the second; and `Z` or an
offset written like a time.

Where the date ends is decided from the length and a few positions before it is
read, so the text is taken as a list of octets of UTF-8. A single octet that does
not fit may stand between the time and an offset.

A NUL counts as the end of the text where a reader only asks whether anything is left:
as the one octet behind the last number of a time or an offset, or, whatever stands behind
it, right after `Z` or after a fraction of at least six digits. Anywhere else it is an octet
that does not fit.
-/

namespace FieldedSearch.Iso8601

/-- The octet that parts the numbers of a date, and stands in front of a negative offset. -/
def hyphen : UInt8 := 0x2D

/-- The octet in front of an offset that is not negative. -/
def plus : UInt8 := 0x2B

/-- The octet that parts the numbers of a time. -/
def colon : UInt8 := 0x3A

/-- The octets that may stand in front of a fraction. -/
def point : UInt8 := 0x2E
def comma : UInt8 := 0x2C

/-- The octet in front of the number of a week. -/
def weekMark : UInt8 := 0x57

/-- The octet that stands for no offset. -/
def zulu : UInt8 := 0x5A

def isDigit (b : UInt8) : Bool := 0x30 ≤ b && b ≤ 0x39

def number (ds : List UInt8) : Nat := ds.foldl (fun n b => 10 * n + (b.toNat - 48)) 0

/-- A number of exactly `width` digits, and what follows it. -/
def take? (width : Nat) (s : List UInt8) : Option (Nat × List UInt8) :=
  let ds := s.take width
  if ds.length = width ∧ ds.all isDigit then some (number ds, s.drop width) else none

/-- A separator, if one is due, and what follows it. -/
def separator? (due : Bool) : List UInt8 → Option (List UInt8)
  | b :: rest => if due then (if b = hyphen then some rest else none) else some (b :: rest)
  | [] => if due then none else some []

-- ---------------------------------------------------------------------------
-- Dates
-- ---------------------------------------------------------------------------

/-- The number of octets of the date at the head of a text. -/
def dateLength? (s : List UInt8) : Option Nat :=
  let n := s.length
  if n < 7 then none
  else if n = 7 then some 7
  else if s[4]? = some hyphen then
    if s[5]? = some weekMark then
      if 8 < n ∧ s[8]? = some hyphen then
        if n = 9 then none
        else if 10 < n ∧ (s[10]?.any isDigit) then some 8
        else some 10
      else some 8
    else some 10
  else if s[4]? = some weekMark then
    let digits := 7 + ((s.drop 7).takeWhile isDigit).length
    if digits < 9 then some digits
    else if digits % 2 = 0 then some 7
    else some 8
  else some 8

/-- A week and perhaps a day, behind the mark of a week date. -/
def readWeek? (year : Nat) (separated : Bool) (s : List UInt8) : Option Date := do
  let (week, s) ← take? 2 s
  if s.isEmpty then Date.ofWeek? year week 1
  else
    let s ← separator? separated s
    let (day, s) ← take? 1 s
    if s.isEmpty then Date.ofWeek? year week day else none

def readMonth? (year : Nat) (separated : Bool) (s : List UInt8) : Option Date := do
  let (month, s) ← take? 2 s
  let s ← separator? separated s
  let (day, s) ← take? 2 s
  if s.isEmpty then Date.of? year month day else none

/-- A whole text that is a date. -/
def readDate? (s : List UInt8) : Option Date := do
  let (year, s) ← take? 4 s
  let separated := s.head? = some hyphen
  let s := if separated then s.drop 1 else s
  match s with
  | b :: rest => if b = weekMark then readWeek? year separated rest else readMonth? year separated s
  | [] => none

-- ---------------------------------------------------------------------------
-- Times
-- ---------------------------------------------------------------------------

/-- What is read of a time: its numbers, the microseconds, and whether something is
left behind it. -/
structure ClockReading where
  numbers : List Nat
  microsecond : Nat
  leftover : Bool
deriving DecidableEq, Repr

/-- Whether nothing is left of a text, or only what a NUL cuts off. -/
def isOver (s : List UInt8) : Bool := s.head?.all (· == 0)

@[simp] theorem isOver_nil : isOver [] = true := rfl

/-- At most six digits of a fraction; further digits count for nothing. -/
def readFraction? (s : List UInt8) : Option (Nat × Bool) :=
  let ds := s.take 6
  if ds.all isDigit then
    some (number ds * Nat.pow 10 (6 - ds.length), !isOver ((s.drop 6).dropWhile isDigit))
  else none

/-- Up to `count` numbers of two digits and a fraction. The octet behind the first
number decides whether colons part the numbers. -/
def readNumbers? : (count : Nat) → (colons : Option Bool) → List UInt8 → Option ClockReading
  | 0, _, s => (readFraction? s).map fun (f, leftover) => ⟨[], f, leftover⟩
  | count + 1, colons, s => do
    let (n, s) ← take? 2 s
    match s with
    | [] => some ⟨[n], 0, false⟩
    | [b] => some ⟨[n], 0, !isOver [b]⟩
    | b :: rest =>
      let colons := colons.getD (b = colon)
      let behind ←
        if colons && b = colon then readNumbers? count colons rest
        else if b = point || b = comma then
          (readFraction? rest).map fun (f, leftover) => ⟨[], f, leftover⟩
        else if colons then none
        else readNumbers? count colons s
      some { behind with numbers := n :: behind.numbers }

/-- A time of day or the size of an offset. -/
def readClock? (s : List UInt8) : Option ClockReading := readNumbers? 3 none s

/-- The offset of the given size and direction. Without a whole second it is none at
all. -/
def ClockReading.offset? (negative : Bool) (r : ClockReading) : Option Offset :=
  let seconds := r.numbers.getD 0 0 * 3600 + r.numbers.getD 1 0 * 60 + r.numbers.getD 2 0
  let size : Int := if seconds = 0 then 0 else (seconds * 1000000 + r.microsecond : Nat)
  if r.leftover then none else Offset.of? (if negative then -size else size)

/-- An octet with which what stands behind a time begins. -/
def isZoneMark (b : UInt8) : Bool := b = plus || b = hyphen || b = zulu

/-- What stands from the first zone mark on: nothing, `Z`, or an offset. -/
def readZone? : List UInt8 → Option (Option Offset)
  | [] => some none
  | b :: rest =>
    if b = zulu then (if isOver rest then some (some .utc) else none)
    else do
      let r ← readClock? rest
      let o ← r.offset? (b = hyphen)
      some (some o)

/-- A time of day, with an offset or none. -/
def readTime? (s : List UInt8) : Option (Clock × Option Offset) := do
  let r ← readClock? (s.takeWhile (!isZoneMark ·))
  let zone := s.dropWhile (!isZoneMark ·)
  if zone.isEmpty && r.leftover then none
  else
    let offset ← readZone? zone
    let clock ← Clock.of? (r.numbers.getD 0 0) (r.numbers.getD 1 0) (r.numbers.getD 2 0)
      r.microsecond
    some (clock, offset)

-- ---------------------------------------------------------------------------
-- Dates with times
-- ---------------------------------------------------------------------------

/-- The octets of the character that begins with the given one. -/
def characterLength (b : UInt8) : Nat :=
  if b < 0x80 then 1 else if b &&& 0xF0 = 0xE0 then 3 else if b &&& 0xF0 = 0xF0 then 4 else 2

def octets (s : List Char) : List UInt8 := s.flatMap String.utf8EncodeChar

/-- The date and time that a text denotes. -/
def read? (text : List Char) : Option DateTime := do
  let s := octets text
  let length ← dateLength? s
  let date ← readDate? (s.take length)
  match s.drop length with
  | [] => some (.startOf date)
  | b :: rest =>
    let time := (b :: rest).drop (characterLength b)
    if time.isEmpty then none
    else
      let (clock, offset) ← readTime? time
      some ⟨date, clock, offset⟩

end FieldedSearch.Iso8601
