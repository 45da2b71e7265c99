-- SUMMARY: Reading values from JSON.
import FieldedSearch.Number.Numeral
import FieldedSearch.Value

/-!
# Reading JSON

A document is one value with blanks around it. Beyond the standard, `NaN`, `Infinity`
and `-Infinity` are numbers. A number with a fraction or an exponent is a double, any
other a whole number of any size up to the digit limit. Of members with the same
name the last counts, in the place of the first. Lists and objects may be nested, but
not too deeply.

A string may name a character by one escape or by a surrogate pair of two. A lone
surrogate is no character; the replacement character stands for it.
-/

namespace FieldedSearch.Json

/-- The blanks between the parts of a document. -/
def isBlank (c : Char) : Bool := c == ' ' || c == '\t' || c == '\n' || c == '\r'

def skipBlanks (s : List Char) : List Char := s.dropWhile isBlank

/-- What follows a word at the head of a text. -/
def takeWord? (word s : List Char) : Option (List Char) :=
  if word.isPrefixOf s then some (s.drop word.length) else none

-- ---------------------------------------------------------------------------
-- Strings
-- ---------------------------------------------------------------------------

/-- The character behind the backslash of a short escape. -/
def shortEscape? (c : Char) : Option Char :=
  if c = '"' ∨ c = '\\' ∨ c = '/' then some c
  else [('b', '\x08'), ('f', '\x0c'), ('n', '\n'), ('r', '\r'), ('t', '\t')].lookup c

/-- The code units of a string behind its opening quote, and what follows its
closing one. Characters below the space have to be escaped. -/
def readUnits? : List Char → Option (List Nat × List Char)
  | [] => none
  | '"' :: rest => some ([], rest)
  | '\\' :: 'u' :: a :: b :: c :: d :: rest => do
    let unit ← Text.hexNumber? [a, b, c, d]
    let (units, rest) ← readUnits? rest
    return (unit :: units, rest)
  | '\\' :: e :: rest => do
    let c ← shortEscape? e
    let (units, rest) ← readUnits? rest
    return (c.toNat :: units, rest)
  | c :: rest =>
    if c.toNat < 0x20 then none
    else (readUnits? rest).map fun (units, rest) => (c.toNat :: units, rest)

/-- Whether a code unit is the first of a surrogate pair. -/
def isHighSurrogate (n : Nat) : Bool := 0xD800 ≤ n && n < 0xDC00

/-- Whether a code unit is the second of a surrogate pair. -/
def isLowSurrogate (n : Nat) : Bool := 0xDC00 ≤ n && n < 0xE000

/-- The character with a number, or the replacement character. -/
def character (n : Nat) : Char := if n.isValidChar then Char.ofNat n else '\ufffd'

/-- The characters that code units denote. -/
def joinUnits : List Nat → List Char
  | [] => []
  | [n] => [character n]
  | high :: low :: rest =>
    if isHighSurrogate high && isLowSurrogate low then
      character (0x10000 + (high - 0xD800) * 0x400 + (low - 0xDC00)) :: joinUnits rest
    else character high :: joinUnits (low :: rest)

/-- A string behind its opening quote. -/
def readString? (s : List Char) : Option (String × List Char) :=
  (readUnits? s).map fun (units, rest) => (String.ofList (joinUnits units), rest)

-- ---------------------------------------------------------------------------
-- Numbers
-- ---------------------------------------------------------------------------

/-- A number without its sign. -/
def readMagnitude? (negative : Bool) (s : List Char) : Option (Value × List Char) := do
  let (n, rest) ← Numeral.take? Numeral.plain negative s
  if !n.isWhole then return (.float n.toDouble, rest)
  else if n.isTooLong then none
  else return (.int n.toInt, rest)

/-- The words that are values. -/
def words : List (String × Value) :=
  [("null", .null), ("true", .bool true), ("false", .bool false), ("NaN", .float .nan),
    ("Infinity", .float (.infinite false)), ("-Infinity", .float (.infinite true))]

/-- A word or a number. -/
def readScalar? (s : List Char) : Option (Value × List Char) :=
  match words.findSome? fun (word, v) => (takeWord? word.toList s).map fun rest => (v, rest) with
  | some found => some found
  | none =>
    match s with
    | '-' :: rest => readMagnitude? true rest
    | _ => readMagnitude? false s

-- ---------------------------------------------------------------------------
-- Documents
-- ---------------------------------------------------------------------------

inductive Refusal
  | malformed
  | tooDeep
deriving DecidableEq, Repr

/-- A reading as the outcome of a reader that may refuse. -/
def orMalformed {α : Type} : Option α → Except Refusal α
  | some a => .ok a
  | none => .error .malformed

/-- How many lists and objects may stand within one another. Each takes one call, and
about fifteen are open where a document is read. -/
def depthLimit : Nat := callLimit - 15

mutual

/-- A value at the head of a text, and what follows it, when lists and objects may be
nested `depth` times. -/
def readValue : (fuel depth : Nat) → List Char → Except Refusal (Value × List Char)
  | 0, _, _ => .error .malformed
  | _ + 1, _, '"' :: s => orMalformed ((readString? s).map fun (t, rest) => (.text t, rest))
  | _ + 1, 0, '[' :: _ | _ + 1, 0, '\x7b' :: _ => .error .tooDeep
  | fuel + 1, depth + 1, '[' :: s =>
    match skipBlanks s with
    | ']' :: rest => .ok (.list [], rest)
    | s => (readItems fuel depth s).map fun (items, rest) => (.list items, rest)
  | fuel + 1, depth + 1, '\x7b' :: s =>
    match skipBlanks s with
    | '\x7d' :: rest => .ok (.map [], rest)
    | s =>
      (readMembers fuel depth s).map fun (members, rest) => (.map (Entries.ofPairs members), rest)
  | _ + 1, _, s => orMalformed (readScalar? s)

/-- The items of a list from the first one on. -/
def readItems : (fuel depth : Nat) → List Char → Except Refusal (List Value × List Char)
  | 0, _, _ => .error .malformed
  | fuel + 1, depth, s => do
    let (item, s) ← readValue fuel depth s
    match skipBlanks s with
    | ']' :: rest => return ([item], rest)
    | ',' :: rest =>
      let (items, rest) ← readItems fuel depth (skipBlanks rest)
      return (item :: items, rest)
    | _ => throw .malformed

/-- The members of an object from the first one on. -/
def readMembers : (fuel depth : Nat) → List Char →
    Except Refusal (List (String × Value) × List Char)
  | 0, _, _ => .error .malformed
  | fuel + 1, depth, '"' :: s => do
    let (name, s) ← orMalformed (readString? s)
    let s ← orMalformed (takeWord? [':'] (skipBlanks s))
    let (value, s) ← readValue fuel depth (skipBlanks s)
    match skipBlanks s with
    | '\x7d' :: rest => return ([(name, value)], rest)
    | ',' :: rest =>
      let (members, rest) ← readMembers fuel depth (skipBlanks rest)
      return ((name, value) :: members, rest)
    | _ => throw .malformed
  | _ + 1, _, _ => .error .malformed

end

/-- The value that a document denotes. Every value takes at least one character, so
the length of the text, doubled for the items, suffices as fuel. -/
def read (text : String) : Except Refusal Value := do
  let s := text.toList
  let (v, rest) ← readValue (2 * s.length + 1) depthLimit (skipBlanks s)
  if (skipBlanks rest).isEmpty then return v else throw .malformed

end FieldedSearch.Json
