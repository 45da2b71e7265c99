-- SUMMARY: The values that constraints compare with, settings hold and search results consist of.
import FieldedSearch.Calendar.DateTime
import FieldedSearch.Entries
import FieldedSearch.Number.Written
import FieldedSearch.Text.Quoted

/-!
# Values

A value has two texts. Its `display` is what messages, queries and tables show: a
text stands for itself. Its `literal` tells values of different kinds apart: a text
stands in quotes, and a date is written with its parts. Lists and maps show the
literals of what they hold.

Not every value has a text. A whole number may have too many digits, and what is nested is
written by calls within calls, of which only `callLimit` may be open at a time; `obstacle?`
tells which of the two is met first. It is asked wherever the text of a value is the result.
-/

namespace FieldedSearch

/-- How many calls may be open at a time. Whatever reads or writes what is nested is bounded
by it, less the calls that are open already when it begins. -/
def callLimit : Nat := 1000

/-- A value of settings, of a constraint, or of a search result. -/
inductive Value
  | null
  | bool (b : Bool)
  | int (n : Int)
  | float (x : Double)
  | text (s : String)
  | date (d : Date)
  | dateTime (t : DateTime)
  | time (t : Clock)
  | list (items : List Value)
  | map (entries : List (String × Value))
deriving Repr, Inhabited

namespace Value

-- ---------------------------------------------------------------------------
-- Equality
-- ---------------------------------------------------------------------------

mutual

def same : Value → Value → Bool
  | .null, .null => true
  | .bool b, .bool b' => b = b'
  | .int n, .int n' => n = n'
  | .float x, .float x' => x = x'
  | .text s, .text s' => s = s'
  | .date d, .date d' => d = d'
  | .dateTime t, .dateTime t' => t = t'
  | .time t, .time t' => t = t'
  | .list items, .list items' => sameItems items items'
  | .map entries, .map entries' => sameEntries entries entries'
  | _, _ => false

def sameItems : List Value → List Value → Bool
  | [], [] => true
  | v :: vs, w :: ws => same v w && sameItems vs ws
  | _, _ => false

def sameEntries : List (String × Value) → List (String × Value) → Bool
  | [], [] => true
  | (name, v) :: rest, (name', v') :: rest' => name = name' && same v v' && sameEntries rest rest'
  | _, _ => false

end

mutual

theorem same_iff : (v w : Value) → (v.same w ↔ v = w)
  | .list vs, w => by cases w <;> simp [same, sameItems_iff vs]
  | .map entries, w => by cases w <;> simp [same, sameEntries_iff entries]
  | .null, w | .bool _, w | .int _, w | .float _, w | .text _, w | .date _, w | .dateTime _, w
  | .time _, w => by cases w <;> simp [same]

theorem sameItems_iff : (vs ws : List Value) → (sameItems vs ws ↔ vs = ws)
  | [], ws => by cases ws <;> simp [sameItems]
  | v :: vs, ws => by cases ws <;> simp [sameItems, same_iff v, sameItems_iff vs]

theorem sameEntries_iff : (es fs : List (String × Value)) → (sameEntries es fs ↔ es = fs)
  | [], fs => by cases fs <;> simp [sameEntries]
  | (name, v) :: es, fs => by
    cases fs <;> simp [sameEntries, same_iff v, sameEntries_iff es, Prod.ext_iff]

end

instance : DecidableEq Value := fun v w => decidable_of_iff (v.same w) (same_iff v w)

-- ---------------------------------------------------------------------------
-- Texts
-- ---------------------------------------------------------------------------

def commaSeparated (parts : List (List Char)) : List Char := [',', ' '].intercalate parts

/-- Numbers between parentheses, behind the name of what they describe. -/
private def call (name : String) (parts : List (List Char)) : List Char :=
  name.toList ++ '(' :: commaSeparated parts ++ [')']

/-- Hour and minute, then second and microsecond as far as they are needed. -/
private def clockParts (t : Clock) : List (List Char) :=
  let needed := if t.microsecond ≠ 0 then [t.second, t.microsecond]
    else if t.second ≠ 0 then [t.second] else []
  ([t.hour, t.minute] ++ needed).map Text.decimal

private def dateParts (d : Date) : List (List Char) := [d.year, d.month, d.day].map Text.decimal

/-- The parts of a span of time that are not nought, with the days rounded down. -/
private def spanParts (microseconds : Int) : List (List Char) :=
  let part (name : String) (n : Int) := if n = 0 then [] else [name.toList ++ Text.decimalInt n]
  let days := Int.fdiv microseconds 86400000000
  let rest := microseconds - days * 86400000000
  let parts := part "days=" days ++ part "seconds=" (rest / 1000000) ++
    part "microseconds=" (rest % 1000000)
  if parts.isEmpty then [['0']] else parts

private def zonePart (o : Offset) : List Char :=
  "tzinfo=".toList ++
    if o.microseconds = 0 then "datetime.timezone.utc".toList
    else call "datetime.timezone" [call "datetime.timedelta" (spanParts o.microseconds)]

mutual

/-- The text that tells a value apart from values of other kinds. -/
def literal : Value → List Char
  | .null => "None".toList
  | .bool b => if b then "True".toList else "False".toList
  | .int n => Text.decimalInt n
  | .float x => x.write
  | .text s => Text.quoted s.toList
  | .date d => call "datetime.date" (dateParts d)
  | .dateTime t =>
    call "datetime.datetime" (dateParts t.date ++ clockParts t.clock ++
      t.offset.elim [] fun o => [zonePart o])
  | .time t => call "datetime.time" (clockParts t)
  | .list items => '[' :: commaSeparated (literals items) ++ [']']
  | .map entries => '\x7b' :: commaSeparated (entryLiterals entries) ++ ['\x7d']

/-- The literals of the items of a list. -/
def literals : List Value → List (List Char)
  | [] => []
  | v :: vs => literal v :: literals vs

/-- The entries of a map, each a name in quotes and a literal. -/
def entryLiterals : List (String × Value) → List (List Char)
  | [] => []
  | (name, v) :: rest => (Text.quoted name.toList ++ ':' :: ' ' :: literal v) :: entryLiterals rest

end

/-- The text that shows a value. -/
def display : Value → String
  | .text s => s
  | .date d => String.ofList d.write
  | .dateTime t => String.ofList (t.write ' ')
  | .time t => String.ofList t.write
  | v => String.ofList v.literal

/-- What a list of arguments shows when nothing else is known of it: nothing, the
one argument itself, or the literals of all in parentheses. -/
def displayAll : List Value → String
  | [] => ""
  | [v] => v.display
  | vs => String.ofList ('(' :: commaSeparated (literals vs) ++ [')'])

/-- How deep the text of a value may go. Every value in another takes one call, and about
fifteen are open where a command writes the first. -/
def depthLimit : Nat := callLimit - 15

/-- What keeps the text of a value from being written. -/
inductive Obstacle
  | digits
  | nesting
deriving DecidableEq, Repr

mutual

/-- The first obstacle in a value that may go `depth` levels deep, itself included. -/
def obstacleWithin? : (depth : Nat) → Value → Option Obstacle
  | 0, _ => some .nesting
  | _ + 1, .int n => if Text.Integer.isWritable n then none else some .digits
  | depth + 1, .list items => itemsObstacle? depth items
  | depth + 1, .map entries => entriesObstacle? depth entries
  | _ + 1, _ => none

def itemsObstacle? (depth : Nat) : List Value → Option Obstacle
  | [] => none
  | v :: vs => (obstacleWithin? depth v).or (itemsObstacle? depth vs)

def entriesObstacle? (depth : Nat) : List (String × Value) → Option Obstacle
  | [] => none
  | (_, v) :: rest => (obstacleWithin? depth v).or (entriesObstacle? depth rest)

end

/-- What keeps the text of a value from being written. -/
def obstacle? (v : Value) : Option Obstacle := v.obstacleWithin? depthLimit

def isWritable (v : Value) : Bool := v.obstacle?.isNone

@[simp] theorem isWritable_int (n : Int) : (int n).isWritable = Text.Integer.isWritable n := by
  change (if Text.Integer.isWritable n then none else some Obstacle.digits).isNone = _
  cases Text.Integer.isWritable n <;> rfl

/-- Whether a value counts as true: it is not null, false, nought or empty. -/
def countsAsTrue : Value → Bool
  | .null => false
  | .bool b => b
  | .int n => n ≠ 0
  | .float (.finite _ m _) => m ≠ 0
  | .text s => s ≠ ""
  | .list items => !items.isEmpty
  | .map entries => !entries.isEmpty
  | _ => true

def text? : Value → Option String
  | .text s => some s
  | _ => none

end Value

end FieldedSearch
