-- SUMMARY: Whether the parameters of an event handler in a tag can be read.
import FieldedSearch.Text.Blank
import FieldedSearch.Text.DecimalDigit
import FieldedSearch.Text.Hexadecimal

/-!
# Event handlers

A tag may give an event a handler: the name of an action, or an action with arguments in
parentheses. Anything else has to be a literal, as the arguments have: a number, a text
in quotes, one of three constants, or several of these in parentheses or braces.
-/

namespace FieldedSearch.Terminal.Handler

-- ---------------------------------------------------------------------------
-- Kinds
-- ---------------------------------------------------------------------------

/-- What kind of literal was read, as far as it matters for what it may be part of. -/
inductive Kind
  | real
  | imaginary
  | text
  | octets
  | constant
  | tuple (hashable : Bool)
  | table
deriving DecidableEq, Repr

namespace Kind

/-- Whether a literal may be the key of a table. -/
def isHashable : Kind → Bool
  | tuple hashable => hashable
  | table => false
  | _ => true

def isNumber : Kind → Bool
  | real | imaginary => true
  | _ => false

end Kind

/-- Reads a literal at the head of a text, and gives what follows. -/
abbrev Reader := List Char → Option (Kind × List Char)

/-- A text without the blanks at its head. -/
def skip (s : List Char) : List Char :=
  s.dropWhile fun c => c == ' ' || c == '\t' || c == '\n' || c == '\r' || c == '\x0c'

def isNameCharacter (c : Char) : Bool := c.isAlphanum || c == '_' || 0x80 ≤ c.toNat

-- ---------------------------------------------------------------------------
-- Numbers
-- ---------------------------------------------------------------------------

/-- Digits with single underscores between them, and what follows. -/
def takeDigits (isDigit : Char → Bool) : List Char → List Char × List Char
  | c :: '_' :: d :: s =>
    if isDigit c && isDigit d then
      let (ds, rest) := takeDigits isDigit (d :: s)
      (c :: ds, rest)
    else if isDigit c then ([c], '_' :: d :: s)
    else ([], c :: '_' :: d :: s)
  | c :: s =>
    if isDigit c then
      let (ds, rest) := takeDigits isDigit s
      (c :: ds, rest)
    else ([], c :: s)
  | [] => ([], [])
termination_by s => s.length

/-- What follows a number, unless a name or a digit does. -/
def ended (kind : Kind) : Reader
  | [] => some (kind, [])
  | c :: s => if isNameCharacter c then none else some (kind, c :: s)

/-- The mark of an imaginary number, or the end of a number. -/
def finish (kind : Kind) : Reader
  | 'j' :: s | 'J' :: s => ended .imaginary s
  | s => ended kind s

/-- The digits of a number in another base, behind its mark. -/
def readBased (isDigit : Char → Bool) (s : List Char) : Option (Kind × List Char) :=
  let (ds, rest) := takeDigits isDigit (match s with | '_' :: s => s | s => s)
  if ds.isEmpty then none else ended .real rest

/-- The digits behind an exponent mark, if there are any. -/
def dropExponent : List Char → Bool × List Char
  | mark :: s =>
    let digits := match s with | '+' :: s | '-' :: s => s | s => s
    let (ds, rest) := takeDigits Text.isAsciiDigit digits
    if (mark == 'e' || mark == 'E') && !ds.isEmpty then (true, rest) else (false, mark :: s)
  | [] => (false, [])

/-- A number in base ten, whose whole part may have no noughts in front unless it has a
fraction or an exponent or is imaginary. -/
def readDecimal (s : List Char) : Option (Kind × List Char) :=
  let (whole, s) := takeDigits Text.isAsciiDigit s
  let (pointed, fraction, s) := match s with
    | '.' :: s => (true, takeDigits Text.isAsciiDigit s)
    | s => (false, [], s)
  let (raised, s) := dropExponent s
  if whole.isEmpty && fraction.isEmpty then none
  else
    let padded := whole.head? == some '0' && whole.any (· != '0')
    match finish .real s with
    | some (.real, rest) => if padded && !pointed && !raised then none else some (.real, rest)
    | found => found

def readNumber : Reader
  | '0' :: 'x' :: s | '0' :: 'X' :: s => readBased (fun c => (Text.hexValue? c).isSome) s
  | '0' :: 'o' :: s | '0' :: 'O' :: s => readBased (fun c => '0' ≤ c && c ≤ '7') s
  | '0' :: 'b' :: s | '0' :: 'B' :: s => readBased (fun c => c == '0' || c == '1') s
  | s => readDecimal s

-- ---------------------------------------------------------------------------
-- Texts
-- ---------------------------------------------------------------------------

/-- The digits that an escape needs behind its letter. -/
def escapeDigits (octets : Bool) : Char → Nat
  | 'x' => 2
  | 'u' => if octets then 0 else 4
  | 'U' => if octets then 0 else 8
  | _ => 0

/-- What follows the closing quotes of a text, if they are there. -/
def dropText (quote : List Char) (raw octets : Bool) : Nat → List Char → Option (List Char)
  | 0, _ => none
  | fuel + 1, s =>
    if quote.isPrefixOf s then some (s.drop quote.length)
    else
      match s with
      | '\\' :: c :: s =>
        let digits := if raw then 0 else escapeDigits octets c
        if (s.take digits).length = digits && (s.take digits).all fun c => (Text.hexValue? c).isSome
        then dropText quote raw octets fuel (s.drop digits)
        else none
      | c :: s =>
        if (c == '\n' && quote.length = 1) || (octets && 0x80 ≤ c.toNat) then none
        else dropText quote raw octets fuel s
      | [] => none

/-- A text behind its letters, at its opening quotes. -/
def readQuoted (raw octets : Bool) (s : List Char) : Option (Kind × List Char) :=
  match s with
  | q :: _ =>
    if q != '\'' && q != '"' then none
    else
      let quote := if [q, q, q].isPrefixOf s then [q, q, q] else [q]
      (dropText quote raw octets s.length (s.drop quote.length)).map fun rest =>
        (if octets then .octets else .text, rest)
  | [] => none

/-- One text, with the letters that may stand in front of it. -/
def readPiece (s : List Char) : Option (Kind × List Char) :=
  let letters := (s.takeWhile fun c => c != '\'' && c != '"').map Char.toLower
  let rest := s.dropWhile fun c => c != '\'' && c != '"'
  if letters = [] || letters = ['u'] then readQuoted false false rest
  else if letters = ['r'] then readQuoted true false rest
  else if letters = ['b'] then readQuoted false true rest
  else if letters = ['b', 'r'] || letters = ['r', 'b'] then readQuoted true true rest
  else none

/-- Whether a text begins here. -/
def startsText (s : List Char) : Bool :=
  match (s.take 3).dropWhile Char.isAlpha with
  | c :: _ => c == '\'' || c == '"'
  | [] => false

/-- Texts behind one another, which are one text if they are of one kind. -/
def readTexts : Nat → Reader
  | 0, _ => none
  | fuel + 1, s => do
    let (kind, rest) ← readPiece s
    let next := skip rest
    if startsText next then
      let (other, rest) ← readTexts fuel next
      if other = kind then some (kind, rest) else none
    else some (kind, rest)

/-- A constant, or the empty set. -/
def readWord (s : List Char) : Option (Kind × List Char) :=
  let word := s.takeWhile isNameCharacter
  let rest := s.dropWhile isNameCharacter
  if ["None".toList, "True".toList, "False".toList].contains word then some (.constant, rest)
  else if word = "set".toList then
    match skip rest with
    | '(' :: rest =>
      match skip rest with
      | ')' :: rest => some (.table, rest)
      | _ => none
    | _ => none
  else none

-- ---------------------------------------------------------------------------
-- Literals
-- ---------------------------------------------------------------------------

mutual

/-- A literal that no sign stands in front of. -/
def readAtom : Nat → Reader
  | 0, _ => none
  | fuel + 1, s =>
    match skip s with
    | '(' :: s =>
      match skip s with
      | ')' :: rest => some (.tuple true, rest)
      | s => readTuple fuel s
    | '\x7b' :: s =>
      match skip s with
      | '\x7d' :: rest => some (.table, rest)
      | s => readTable fuel s
    | '.' :: '.' :: '.' :: rest => some (.constant, rest)
    | s =>
      if startsText s then readTexts fuel s
      else
        match s with
        | c :: _ => if Text.isAsciiDigit c || c == '.' then readNumber s else readWord s
        | [] => none

/-- A literal with a sign, if it is a number. -/
def readSigned : Nat → Reader
  | 0, _ => none
  | fuel + 1, s =>
    match skip s with
    | '+' :: s | '-' :: s => do
      let (kind, rest) ← readAtom fuel s
      if kind.isNumber then some (kind, rest) else none
    | s => readAtom fuel s

/-- A literal, or a sum of a real and an imaginary number. -/
def readLiteral : Nat → Reader
  | 0, _ => none
  | fuel + 1, s => do
    let (kind, rest) ← readSigned fuel s
    match skip rest with
    | '+' :: s | '-' :: s =>
      let (other, rest) ← readAtom fuel s
      if kind = .real && other = .imaginary then some (.imaginary, rest) else none
    | _ => some (kind, rest)

/-- What stands between parentheses: one literal, or several with commas. -/
def readTuple : Nat → Reader
  | 0, _ => none
  | fuel + 1, s => do
    let (kind, rest) ← readLiteral fuel s
    match skip rest with
    | ')' :: rest => some (kind, rest)
    | ',' :: rest => do
      let (all, rest) ← readItems ')' fuel rest
      some (.tuple (kind.isHashable && all), rest)
    | _ => none

/-- The literals behind a comma up to a closing character: whether all may be keys. -/
def readItems (closing : Char) : Nat → List Char → Option (Bool × List Char)
  | 0, _ => none
  | fuel + 1, s =>
    match skip s with
    | [] => none
    | c :: rest =>
      if c == closing then some (true, rest)
      else do
        let (kind, rest) ← readLiteral fuel (c :: rest)
        match skip rest with
        | ',' :: rest => do
          let (all, rest) ← readItems closing fuel rest
          some (kind.isHashable && all, rest)
        | c :: rest => if c == closing then some (kind.isHashable, rest) else none
        | [] => none

/-- What stands between braces: literals, or pairs of them. -/
def readTable : Nat → Reader
  | 0, _ => none
  | fuel + 1, s => do
    let (kind, rest) ← readLiteral fuel s
    if !kind.isHashable then none
    else
      match skip rest with
      | '\x7d' :: rest => some (.table, rest)
      | ',' :: rest => do
        let (all, rest) ← readItems '\x7d' fuel rest
        if all then some (.table, rest) else none
      | ':' :: rest => readPairs fuel rest
      | _ => none

/-- The pairs of a table, behind the first key and its colon. -/
def readPairs : Nat → Reader
  | 0, _ => none
  | fuel + 1, s => do
    let (_, rest) ← readLiteral fuel s
    match skip rest with
    | '\x7d' :: rest => some (.table, rest)
    | ',' :: rest =>
      match skip rest with
      | '\x7d' :: rest => some (.table, rest)
      | rest => do
        let (kind, rest) ← readLiteral fuel rest
        match skip rest with
        | ':' :: rest => if kind.isHashable then readPairs fuel rest else none
        | _ => none
    | _ => none

end

/-- The literals of a whole text: one, or several with commas. -/
def isLiteral (s : List Char) : Bool :=
  let fuel := 8 * s.length + 8
  match readLiteral fuel s with
  | some (_, rest) =>
    match skip rest with
    | [] => true
    | ',' :: rest => (readItems ')' fuel (rest ++ [')'])).any fun (_, rest) => (skip rest).isEmpty
    | _ => false
  | none => false

-- ---------------------------------------------------------------------------
-- Handlers
-- ---------------------------------------------------------------------------

/-- The characters of the name of an action. -/
def isActionCharacter (c : Char) : Bool := isNameCharacter c || c == '.'

/-- Whether parameters are those of a handler. -/
def accepts (parameters : List Char) : Bool :=
  let s := Text.trim parameters
  let behind := s.dropWhile isActionCharacter
  if behind.isEmpty then true
  else if behind.head? = some '(' && behind.getLast? = some ')' && '\n' ∉ behind then
    isLiteral behind
  else isLiteral s

end FieldedSearch.Terminal.Handler
