-- SUMMARY: Whole numbers as decimal text: writing them, and reading them with signs and underscores.
import FieldedSearch.Text.Blank
import FieldedSearch.Text.DecimalDigit

/-!
# Whole numbers

`decimal` writes a number in ASCII digits without leading noughts. `Integer.read`
accepts more than `decimal` writes: blanks other than the information separators
around the number, one sign, digits of any script, and single underscores between
digits. A number of more than `Integer.digitLimit` digits is refused, leading noughts
counted, before it is looked at what follows it.
-/

namespace FieldedSearch.Text

def digitChar (n : Nat) : Char := Char.ofNat (48 + n)

/-- The decimal digits of a natural number, the most significant first. -/
def decimal (n : Nat) : List Char :=
  if n < 10 then [digitChar n] else decimal (n / 10) ++ [digitChar (n % 10)]

/-- A whole number in decimal, with a minus sign if it is negative. -/
def decimalInt : Int → List Char
  | .ofNat n => decimal n
  | .negSucc n => '-' :: decimal (n + 1)

/-- A natural number padded with noughts to at least `width` digits. -/
def padded (width n : Nat) : List Char :=
  let ds := decimal n
  List.replicate (width - ds.length) '0' ++ ds

namespace Integer

/-- The number of digits that a number may have. -/
def digitLimit : Nat := 4300

/-- Whether a whole number has no more digits than are read and written. -/
def isWritable (n : Int) : Bool := n.natAbs < Nat.pow 10 digitLimit

/-- Why a text is not read as a whole number. -/
inductive Refusal
  | malformed
  | tooLong (digits : Nat)
deriving DecidableEq, Repr

/-- The values of a run of digits in which underscores stand one at a time
between two digits. -/
def digits? : List Char → Option (List Nat)
  | [] => none
  | [c] => (digitValue? c).map ([·])
  | c :: '_' :: rest => do
    let d ← digitValue? c
    let ds ← digits? rest
    return d :: ds
  | c :: rest => do
    let d ← digitValue? c
    let ds ← digits? rest
    return d :: ds

def ofDigits (ds : List Nat) : Nat := ds.foldl (fun n d => 10 * n + d) 0

/-- The blanks that may stand around a number: all but the information separators. -/
def isMargin (c : Char) : Bool := isBlank c && (c.toNat < 28 || 31 < c.toNat)

/-- The characters of a run of digits. -/
def isRunCharacter (c : Char) : Bool := c == '_' || (digitValue? c).isSome

/-- The magnitude denoted by a run of digits, when `rest` follows it. -/
def readMagnitude (run rest : List Char) : Except Refusal Nat :=
  match digits? run with
  | none => .error .malformed
  | some ds =>
    if digitLimit < ds.length then .error (.tooLong ds.length)
    else if rest.all isMargin then .ok (ofDigits ds)
    else .error .malformed

def readUnsigned (s : List Char) : Except Refusal Nat :=
  readMagnitude (s.takeWhile isRunCharacter) (s.dropWhile isRunCharacter)

def readSigned : List Char → Except Refusal Int
  | '-' :: s => (readUnsigned s).map fun n => -(n : Int)
  | '+' :: s => (readUnsigned s).map fun n => (n : Int)
  | s => (readUnsigned s).map fun n => (n : Int)

/-- A number with blanks around it. -/
def read (s : List Char) : Except Refusal Int := readSigned (s.dropWhile isMargin)

/-- The number a text denotes, if it is one. -/
def read? (s : List Char) : Option Int := (read s).toOption

end Integer

end FieldedSearch.Text
