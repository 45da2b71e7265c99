-- SUMMARY: The strings, numbers, dates and times of TOML.
import FieldedSearch.Number.Numeral
import FieldedSearch.Toml.Characters
import FieldedSearch.Value

/-!
# TOML scalars

A string stands between single quotes, which know no escapes, or double quotes,
which do; three quotes of a kind let it run over several lines. Control characters
other than the tab are not allowed in it.

A number may hold single underscores between its digits. It is a double if it has a
fraction or an exponent. Dates and times are those of RFC 3339, a fraction of a
second being cut to six places.

Every reader takes what it can from the head of a text and gives what follows.
-/

namespace FieldedSearch.Toml

/-- Why a text is refused. -/
inductive Refusal
  | malformed
  | numeralTooLong (digits : Nat)
  | tooDeep
deriving DecidableEq, Repr

-- ---------------------------------------------------------------------------
-- Escapes
-- ---------------------------------------------------------------------------

/-- The escapes of one character. -/
def shortEscapes : List (Char × Char) :=
  [('b', '\x08'), ('t', '\t'), ('n', '\n'), ('f', '\x0c'), ('r', '\r'), ('"', '"'), ('\\', '\\')]

/-- A character given by hexadecimal digits. -/
def numberedChar? (ds : List Char) : Option Char := do
  let n ← Text.hexNumber? ds
  if n.isValidChar then some (Char.ofNat n) else none

/-- The number of hexadecimal digits behind the letter of an escape. -/
def escapeWidth? (c : Char) : Option Nat := [('u', 4), ('U', 8)].lookup c

/-- The character of an escape behind its backslash. -/
def takeEscape? : List Char → Option (Char × List Char)
  | [] => none
  | c :: s =>
    match escapeWidth? c with
    | some width =>
      if (s.take width).length = width then
        (numberedChar? (s.take width)).map fun e => (e, s.drop width)
      else none
    | none => (shortEscapes.lookup c).map fun e => (e, s)

/-- What follows a backslash at the end of a line: the blanks before the line break
and all blanks and breaks behind it. -/
def joinLines? (s : List Char) : Option (List Char) :=
  match s.dropWhile isBlank with
  | '\n' :: rest => some (rest.dropWhile isBlankOrBreak)
  | _ => none

-- ---------------------------------------------------------------------------
-- Strings
-- ---------------------------------------------------------------------------

/-- A quoted string on one line, behind its opening quote. -/
def takeLine? (quote : Char) : (fuel : Nat) → List Char → Option (List Char × List Char)
  | 0, _ => none
  | _ + 1, [] => none
  | fuel + 1, c :: s =>
    if c = quote then some ([], s)
    else if c = '\\' ∧ quote = '"' then do
      let (e, s) ← takeEscape? s
      let (cs, rest) ← takeLine? quote fuel s
      return (e :: cs, rest)
    else if isControl c then none
    else (takeLine? quote fuel s).map fun (cs, rest) => (c :: cs, rest)

/-- Up to two quotes in front of the three that close a string belong to it. -/
def closeLines (quote : Char) (s : List Char) : List Char × List Char :=
  let extra := (s.take 2).takeWhile (· == quote)
  (extra, s.drop extra.length)

/-- A quoted string on several lines, behind its opening quotes. -/
def takeLines? (quote : Char) : (fuel : Nat) → List Char → Option (List Char × List Char)
  | 0, _ => none
  | _ + 1, [] => none
  | fuel + 1, c :: s =>
    if [quote, quote, quote].isPrefixOf (c :: s) then some (closeLines quote (s.drop 2))
    else if c = '\\' ∧ quote = '"' then
      match joinLines? s with
      | some s => takeLines? quote fuel s
      | none => do
        let (e, s) ← takeEscape? s
        let (cs, rest) ← takeLines? quote fuel s
        return (e :: cs, rest)
    else if isControl c && c != '\n' then none
    else (takeLines? quote fuel s).map fun (cs, rest) => (c :: cs, rest)

/-- A string on one line, behind its opening quote. -/
def takeLineString? (quote : Char) (s : List Char) : Option (String × List Char) :=
  (takeLine? quote (s.length + 1) s).map fun (cs, rest) => (String.ofList cs, rest)

/-- A string on one line or several, behind its first quote. A line break right
behind three quotes does not count. -/
def takeString? (quote : Char) (s : List Char) : Option (String × List Char) :=
  if [quote, quote].isPrefixOf s then
    let s := s.drop 2
    let s := if s.head? = some '\n' then s.drop 1 else s
    (takeLines? quote (s.length + 1) s).map fun (cs, rest) => (String.ofList cs, rest)
  else takeLineString? quote s

-- ---------------------------------------------------------------------------
-- Dates and times
-- ---------------------------------------------------------------------------

/-- A number of exactly `width` digits. -/
def takeNumber? (width : Nat) (s : List Char) : Option (Nat × List Char) :=
  let ds := s.take width
  if ds.length = width ∧ ds.all Text.isAsciiDigit then
    some (Text.Integer.ofDigits (ds.map Text.asciiValue), s.drop width)
  else none

def takeChar? (c : Char) : List Char → Option (List Char)
  | d :: s => if d = c then some s else none
  | [] => none

def takeDate? (s : List Char) : Option (Date × List Char) := do
  let (year, s) ← takeNumber? 4 s
  let (month, s) ← takeNumber? 2 (← takeChar? '-' s)
  let (day, s) ← takeNumber? 2 (← takeChar? '-' s)
  return (← Date.of? year month day, s)

/-- The microseconds behind a point, if there is one with a digit behind it. -/
def takeMicrosecond : List Char → Nat × List Char
  | '.' :: s =>
    let ds := s.takeWhile Text.isAsciiDigit
    if ds.isEmpty then (0, '.' :: s)
    else
      let six := ds.take 6 ++ List.replicate (6 - ds.length) '0'
      (Text.Integer.ofDigits (six.map Text.asciiValue), s.dropWhile Text.isAsciiDigit)
  | s => (0, s)

def takeTime? (s : List Char) : Option (Clock × List Char) := do
  let (hour, s) ← takeNumber? 2 s
  let (minute, s) ← takeNumber? 2 (← takeChar? ':' s)
  let (second, s) ← takeNumber? 2 (← takeChar? ':' s)
  let (microsecond, rest) := takeMicrosecond s
  return (← Clock.of? hour minute second microsecond, rest)

/-- The size of an offset: hours below 24 and minutes. -/
def takeOffset? (negative : Bool) (s : List Char) : Option (Offset × List Char) := do
  let (hour, s) ← takeNumber? 2 s
  let (minute, s) ← takeNumber? 2 (← takeChar? ':' s)
  let t ← Clock.of? hour minute 0 0
  let size : Int := t.sinceMidnight
  return (← Offset.of? (if negative then -size else size), s)

def takeZone : List Char → Option Offset × List Char
  | [] => (none, [])
  | c :: s =>
    if c = 'Z' ∨ c = 'z' then (some .utc, s)
    else if c = '+' ∨ c = '-' then
      match takeOffset? (c = '-') s with
      | some (o, rest) => (some o, rest)
      | none => (none, c :: s)
    else (none, c :: s)

/-- The time behind a date, if there is one. -/
def takeTimeOfDate? : List Char → Option (Clock × List Char)
  | c :: s => if c = 'T' ∨ c = 't' ∨ c = ' ' then takeTime? s else none
  | [] => none

/-- A date, a date with a time, or a time. -/
def takeMoment? (s : List Char) : Option (Value × List Char) :=
  match takeDate? s with
  | some (d, s) =>
    match takeTimeOfDate? s with
    | some (t, s) =>
      let (o, rest) := takeZone s
      some (.dateTime ⟨d, t, o⟩, rest)
    | none => some (.date d, s)
  | none => (takeTime? s).map fun (t, rest) => (.time t, rest)

-- ---------------------------------------------------------------------------
-- Numbers
-- ---------------------------------------------------------------------------

/-- Characters that satisfy `p`, single underscores between them left out. -/
def takeDigits (p : Char → Bool) : List Char → List Char × List Char
  | [] => ([], [])
  | [c] => if p c then ([c], []) else ([], [c])
  | c :: '_' :: d :: s =>
    if p c then
      if p d then
        let (cs, rest) := takeDigits p (d :: s)
        (c :: cs, rest)
      else ([c], '_' :: d :: s)
    else ([], c :: '_' :: d :: s)
  | c :: s =>
    if p c then
      let (cs, rest) := takeDigits p s
      (c :: cs, rest)
    else ([], c :: s)

/-- The bases of numbers that begin with a nought and a letter. -/
def bases : List (Char × Nat) := [('x', 16), ('o', 8), ('b', 2)]

/-- Whether a character is a digit of a base. -/
def isDigitOf (base : Nat) (c : Char) : Bool := (Text.hexValue? c).any (· < base)

/-- A number in a base other than ten. -/
def takeBased? : List Char → Option (Int × List Char)
  | '0' :: letter :: s => do
    let base ← bases.lookup letter
    let (ds, rest) := takeDigits (isDigitOf base) s
    if ds.isEmpty then none
    else return (ds.foldl (fun n d => base * n + (Text.hexValue? d).getD 0) 0, rest)
  | _ => none

/-- A whole number in decimal, or a double. -/
def takeDecimal (s : List Char) : Except Refusal (Value × List Char) :=
  let (negative, s) := Numeral.takeSign s
  match Numeral.take? (takeDigits Text.isAsciiDigit) negative s with
  | none => .error .malformed
  | some (n, rest) =>
    if !n.isWhole then .ok (.float n.toDouble, rest)
    else if n.isTooLong then .error (.numeralTooLong n.whole.length)
    else .ok (.int n.toInt, rest)

/-- A number that is infinite or none. -/
def takeSpecial? (s : List Char) : Option (Value × List Char) :=
  let (negative, s) := Numeral.takeSign s
  if "inf".toList.isPrefixOf s then some (.float (.infinite negative), s.drop 3)
  else if "nan".toList.isPrefixOf s then some (.float .nan, s.drop 3)
  else none

def takeBool? (s : List Char) : Option (Value × List Char) :=
  if "true".toList.isPrefixOf s then some (.bool true, s.drop 4)
  else if "false".toList.isPrefixOf s then some (.bool false, s.drop 5)
  else none

/-- A value that is neither a string nor made of other values. -/
def takeBare (s : List Char) : Except Refusal (Value × List Char) :=
  match takeBool? s with
  | some found => .ok found
  | none =>
    match takeMoment? s with
    | some found => .ok found
    | none =>
      match takeBased? s with
      | some (n, rest) => .ok (.int n, rest)
      | none =>
        match takeSpecial? s with
        | some found => .ok found
        | none => takeDecimal s

end FieldedSearch.Toml
