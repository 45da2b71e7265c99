-- SUMMARY: Doubles as text: where the point stands, when an exponent is written, and reading them back.
import FieldedSearch.Number.Shortest

/-!
# Written doubles

A finite double is written with the digits of its shortest decimal. A decimal
exponent from -4 to 15 is written positionally, with `.0` behind a whole number;
any other as `d.ddde+dd`, the exponent with a sign and at least two digits.
-/

namespace FieldedSearch.Double

/-- The least decimal exponent that is written positionally. -/
def positionalFrom : Int := -4

/-- The least decimal exponent above those written positionally. -/
def positionalBelow : Int := 16

private def sign (negative : Bool) : List Char := if negative then ['-'] else []

private def zeros (n : Int) : List Char := List.replicate n.toNat '0'

/-- The digits with the point behind the first, and the exponent of ten. -/
def scientific (ds : List Char) (exponent : Int) : List Char :=
  let fraction := if ds.length ≤ 1 then [] else '.' :: ds.drop 1
  let mark := if exponent < 0 then ['e', '-'] else ['e', '+']
  ds.take 1 ++ fraction ++ mark ++ Text.padded 2 exponent.natAbs

/-- The digits with the point where it belongs, the first digit having the given
decimal exponent. -/
def positional (ds : List Char) (exponent : Int) : List Char :=
  if exponent < 0 then ['0', '.'] ++ zeros (-exponent - 1) ++ ds
  else
    let whole := exponent.toNat + 1
    if ds.length ≤ whole then ds ++ zeros (whole - ds.length) ++ ['.', '0']
    else ds.take whole ++ '.' :: ds.drop whole

/-- The text of a positive decimal. -/
def writeDecimal (d : Decimal) : List Char :=
  let ds := Text.decimal d.digits
  let exponent := d.exponent + ds.length - 1
  if positionalFrom ≤ exponent ∧ exponent < positionalBelow then positional ds exponent
  else scientific ds exponent

def write : Double → List Char
  | .nan => ['n', 'a', 'n']
  | .infinite negative => sign negative ++ ['i', 'n', 'f']
  | .finite negative m e =>
    sign negative ++ if m = 0 then ['0', '.', '0'] else writeDecimal (shortest m e)

-- ---------------------------------------------------------------------------
-- Reading
-- ---------------------------------------------------------------------------

/-- The double denoted by the digits before the point, those behind it and an
exponent of ten. -/
def ofParts (negative : Bool) (whole fraction : List Char) (exponent : Int) : Double :=
  ofDecimal negative (Text.Integer.ofDigits ((whole ++ fraction).map Text.asciiValue))
    (exponent - fraction.length)

/-- An exponent mark with its digits, or nothing. -/
def readExponent? : List Char → Option Int
  | [] => some 0
  | c :: s => if c = 'e' ∨ c = 'E' then Text.Integer.read? s else none

/-- A decimal with an optional fraction and exponent. -/
def readUnsigned? (negative : Bool) (s : List Char) : Option Double :=
  if s = ['i', 'n', 'f'] then some (.infinite negative)
  else if s = ['n', 'a', 'n'] then some .nan
  else
    let whole := s.takeWhile Text.isAsciiDigit
    let (fraction, tail) :=
      match s.dropWhile Text.isAsciiDigit with
      | '.' :: rest => (rest.takeWhile Text.isAsciiDigit, rest.dropWhile Text.isAsciiDigit)
      | rest => ([], rest)
    if whole.isEmpty && fraction.isEmpty then none
    else (readExponent? tail).map (ofParts negative whole fraction)

/-- The double a text denotes, if it has the form that `write` gives it. -/
def read? : List Char → Option Double
  | '-' :: s => readUnsigned? true s
  | '+' :: s => readUnsigned? false s
  | s => readUnsigned? false s

end FieldedSearch.Double
