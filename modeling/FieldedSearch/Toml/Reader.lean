-- SUMMARY: Reading TOML documents.
import FieldedSearch.Toml.Scalar
import FieldedSearch.Toml.Table

/-!
# Reading TOML

A document is a sequence of lines, each with a header, an entry, or nothing but a
comment. The first thing in it that is not allowed is what it is refused for. Lists and
tables within one another may have a limited depth, to which a table adds more than a
list.
-/

namespace FieldedSearch.Toml

/-- A reading as the outcome of a reader that may refuse. -/
def orMalformed {α : Type} : Option α → Except Refusal α
  | some a => .ok a
  | none => .error .malformed

/-- What follows a comment, if there is one. -/
def skipComment : List Char → Option (List Char)
  | '#' :: s =>
    if (s.takeWhile (· != '\n')).any isControl then none else some (s.dropWhile (· != '\n'))
  | s => some s

/-- What follows blanks, line breaks and comments. -/
def skipFiller : (fuel : Nat) → List Char → Option (List Char)
  | 0, s => some s
  | fuel + 1, s =>
    match s.dropWhile isBlankOrBreak with
    | '#' :: rest => do skipFiller fuel (← skipComment ('#' :: rest))
    | rest => some rest

-- ---------------------------------------------------------------------------
-- Names
-- ---------------------------------------------------------------------------

/-- One name: bare, or in quotes of either kind. -/
def takeName? : List Char → Option (String × List Char)
  | [] => none
  | c :: s =>
    if isBare c then some (String.ofList (c :: s.takeWhile isBare), s.dropWhile isBare)
    else if c = '"' ∨ c = '\'' then takeLineString? c s
    else none

/-- Names with points between them, and the blanks behind. -/
def takePath? : (fuel : Nat) → List Char → Option (Path × List Char)
  | 0, _ => none
  | fuel + 1, s => do
    let (name, s) ← takeName? s
    match s.dropWhile isBlank with
    | '.' :: rest =>
      let (path, rest) ← takePath? fuel (rest.dropWhile isBlank)
      return (name :: path, rest)
    | rest => return ([name], rest)

def readPath (s : List Char) : Except Refusal (Path × List Char) :=
  orMalformed (takePath? (s.length + 1) s)

-- ---------------------------------------------------------------------------
-- Values
-- ---------------------------------------------------------------------------

/-- How many calls the values within one another may take. About twenty are open where the
first value of a document is read. -/
def depthLimit : Nat := callLimit - 20

/-- The calls for an item: one for the list and one for the value in it. -/
def listDepth : Nat := 2

/-- The calls for an entry: one for the table, one for the entry and one for the value. -/
def tableDepth : Nat := 3

mutual

/-- A value at the head of a text inside others of a depth, and what follows it. -/
def readValue : (fuel depth : Nat) → List Char → Except Refusal (Value × List Char)
  | 0, _, _ => .error .malformed
  | fuel + 1, depth, s =>
    if depthLimit < depth then .error .tooDeep
    else
      match s with
      | '"' :: s => orMalformed ((takeString? '"' s).map fun (t, rest) => (.text t, rest))
      | '\'' :: s => orMalformed ((takeString? '\'' s).map fun (t, rest) => (.text t, rest))
      | '[' :: s =>
        (readItems fuel (depth + listDepth) s).map fun (items, rest) => (.list items, rest)
      | '\x7b' :: s =>
        match s.dropWhile isBlank with
        | '\x7d' :: rest => .ok (.map [], rest)
        | s =>
          (readEntries fuel (depth + tableDepth) .empty s).map fun (entries, rest) =>
            (.map entries, rest)
      | s => takeBare s

/-- The items of a list up to its closing bracket; a comma may follow the last. -/
def readItems : (fuel depth : Nat) → List Char → Except Refusal (List Value × List Char)
  | 0, _, _ => .error .malformed
  | fuel + 1, depth, s => do
    match ← orMalformed (skipFiller (s.length + 1) s) with
    | ']' :: rest => return ([], rest)
    | s =>
      let (item, s) ← readValue fuel depth s
      match ← orMalformed (skipFiller (s.length + 1) s) with
      | ']' :: rest => return ([item], rest)
      | ',' :: rest =>
        let (items, rest) ← readItems fuel depth rest
        return (item :: items, rest)
      | _ => throw .malformed

/-- The entries of a table written in one piece from the next one on. -/
def readEntries : (fuel depth : Nat) → InlineTable → List Char →
    Except Refusal (Table × List Char)
  | 0, _, _, _ => .error .malformed
  | fuel + 1, depth, t, s => do
    let (path, s) ← readPath s
    let s ← orMalformed (takeChar? '=' s)
    let (v, s) ← readValue fuel depth (s.dropWhile isBlank)
    let t ← orMalformed (t.define path v)
    match s.dropWhile isBlank with
    | '\x7d' :: rest => return (t.entries, rest)
    | ',' :: rest => readEntries fuel depth t (rest.dropWhile isBlank)
    | _ => throw .malformed

end

-- ---------------------------------------------------------------------------
-- Documents
-- ---------------------------------------------------------------------------

def readEntry (d : Document) (s : List Char) : Except Refusal (Document × List Char) := do
  let (path, s) ← readPath s
  let s := (← orMalformed (takeChar? '=' s)).dropWhile isBlank
  let (v, s) ← readValue (2 * s.length + 1) 0 s
  return (← orMalformed (d.define path v), s)

/-- The header of a table, behind its bracket. -/
def readTableHeader (d : Document) (s : List Char) : Except Refusal (Document × List Char) := do
  let (path, s) ← readPath (s.dropWhile isBlank)
  return (← orMalformed (d.openTable path), ← orMalformed (takeChar? ']' s))

/-- The header of a table in a list of tables, behind its brackets. -/
def readItemHeader (d : Document) (s : List Char) : Except Refusal (Document × List Char) := do
  let (path, s) ← readPath (s.dropWhile isBlank)
  let d ← orMalformed (d.openItem path)
  return (d, ← orMalformed (takeChar? ']' (← orMalformed (takeChar? ']' s))))

/-- What a line holds apart from blanks and comments. -/
def readStatement (d : Document) (s : List Char) : Except Refusal (Document × List Char) :=
  match s with
  | '[' :: '[' :: s => readItemHeader d s
  | '[' :: s => readTableHeader d s
  | c :: _ =>
    if isBare c || c == '"' || c == '\'' then readEntry d s
    else if c == '#' || c == '\n' then .ok (d, s)
    else .error .malformed
  | [] => .ok (d, [])

def readLines : (fuel : Nat) → Document → List Char → Except Refusal Document
  | 0, _, _ => .error .malformed
  | fuel + 1, d, s => do
    let (d, s) ← readStatement d (s.dropWhile isBlank)
    match ← orMalformed (skipComment (s.dropWhile isBlank)) with
    | [] => return d
    | '\n' :: rest => readLines fuel d rest
    | _ => throw .malformed

/-- A text with a line feed for every pair of carriage return and line feed. -/
def joinBreaks : List Char → List Char
  | [] => []
  | [c] => [c]
  | '\r' :: '\n' :: s => '\n' :: joinBreaks s
  | c :: s => c :: joinBreaks s

/-- The table that a document denotes. Every line and every value takes at least one
character, which bounds the fuel. -/
def read (text : String) : Except Refusal Table :=
  let s := joinBreaks text.toList
  (readLines (s.length + 1) .empty s).map Document.root

end FieldedSearch.Toml
