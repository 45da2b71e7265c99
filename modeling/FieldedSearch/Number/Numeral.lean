-- SUMMARY: Numbers as data formats write them: digits, a fraction, an exponent of ten.
import FieldedSearch.Number.Written

/-!
# Numerals

A numeral has no leading noughts. Without a fraction and an exponent it is a whole
number, with either a double. What a run of digits is, and whether anything may stand
between them, is up to the format.
-/

namespace FieldedSearch

/-- A number as it is written. -/
structure Numeral where
  negative : Bool
  whole : List Char
  fraction : Option (List Char)
  exponent : Option Int
deriving DecidableEq, Repr

namespace Numeral

/-- Takes the digits at the head of a text, and gives what follows. -/
abbrev Run := List Char → List Char × List Char

/-- ASCII digits with nothing between them. -/
def plain : Run := fun s => (s.takeWhile Text.isAsciiDigit, s.dropWhile Text.isAsciiDigit)

/-- The sign at the head of a text, if there is one: whether it is a minus. -/
def takeSign : List Char → Bool × List Char
  | '-' :: s => (true, s)
  | '+' :: s => (false, s)
  | s => (false, s)

/-- The digits of the whole part: nought alone, or a run that begins with another
digit. -/
def takeWhole? (run : Run) : List Char → Option (List Char × List Char)
  | [] => none
  | c :: s =>
    if c = '0' then some ([c], s)
    else if Text.isAsciiDigit c then some (run (c :: s))
    else none

/-- The digits behind a point, if there are any. -/
def takeFraction (run : Run) : List Char → Option (List Char) × List Char
  | '.' :: s => if (run s).1.isEmpty then (none, '.' :: s) else (some (run s).1, (run s).2)
  | s => (none, s)

/-- The number behind an exponent mark, if there is one. -/
def takeExponent (run : Run) : List Char → Option Int × List Char
  | [] => (none, [])
  | mark :: s =>
    let (negative, digits) := takeSign s
    let (ds, rest) := run digits
    if (mark = 'e' ∨ mark = 'E') ∧ ds ≠ [] then
      let n : Int := Text.Integer.ofDigits (ds.map Text.asciiValue)
      (some (if negative then -n else n), rest)
    else (none, mark :: s)

/-- A numeral at the head of a text, behind its sign. -/
def take? (run : Run) (negative : Bool) (s : List Char) : Option (Numeral × List Char) := do
  let (whole, s) ← takeWhole? run s
  let (fraction, s) := takeFraction run s
  let (exponent, s) := takeExponent run s
  return (⟨negative, whole, fraction, exponent⟩, s)

def isWhole (n : Numeral) : Bool := n.fraction.isNone && n.exponent.isNone

/-- Whether a whole number has more digits than are read. -/
def isTooLong (n : Numeral) : Bool := Text.Integer.digitLimit < n.whole.length

def toInt (n : Numeral) : Int :=
  let size : Int := Text.Integer.ofDigits (n.whole.map Text.asciiValue)
  if n.negative then -size else size

def toDouble (n : Numeral) : Double :=
  .ofParts n.negative n.whole (n.fraction.getD []) (n.exponent.getD 0)

end Numeral

end FieldedSearch
