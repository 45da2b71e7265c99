-- SUMMARY: Writing tables as TOML documents.
import FieldedSearch.Text.Hexadecimal
import FieldedSearch.Toml.Characters
import FieldedSearch.Value

/-!
# Writing TOML

A table is written as a block: its header, then its entries, one on a line. The
blocks of the tables within it follow, and a blank line parts any two blocks. A
table that holds nothing but tables has no block of its own.

A list has each item on a line. A table in a list is written in one piece, unless
some table of the list does not fit a line: then every one has a block of its own.
What has no value cannot be written.
-/

namespace FieldedSearch.Toml

/-- The longest line that a table in a list may take. -/
def lineLimit : Nat := 100

/-- The indentation of the items of a list inside `level` lists. -/
def indent (level : Nat) : List Char := List.replicate (4 * level) ' '

-- ---------------------------------------------------------------------------
-- Strings and names
-- ---------------------------------------------------------------------------

def escapeChar (c : Char) : List Char :=
  if c = '"' ∨ c = '\\' then ['\\', c]
  else if c = '\x08' then ['\\', 'b']
  else if c = '\n' then ['\\', 'n']
  else if c = '\x0c' then ['\\', 'f']
  else if c = '\r' then ['\\', 'r']
  else if isControl c then '\\' :: 'u' :: Text.hex 4 c.toNat
  else [c]

def writeString (s : String) : List Char := '"' :: s.toList.flatMap escapeChar ++ ['"']

/-- A name, in quotes where it needs them. -/
def writeName (name : String) : List Char :=
  if name ≠ "" ∧ name.toList.all isBare then name.toList else writeString name

-- ---------------------------------------------------------------------------
-- Values
-- ---------------------------------------------------------------------------

mutual

/-- A value in one piece, inside `level` lists. -/
def writeValue (level : Nat) : Value → List Char
  | .bool b => (if b then "true" else "false").toList
  | .text s => writeString s
  | .list items =>
    if items.isEmpty then ['[', ']']
    else '[' :: '\n' :: writeItems (level + 1) items ++ indent level ++ [']']
  | .map entries =>
    if entries.isEmpty then ['\x7b', '\x7d']
    else '\x7b' :: ' ' :: [',', ' '].intercalate (writeEntries entries) ++ [' ', '\x7d']
  | v => v.display.toList

/-- The items of a list, each on a line. -/
def writeItems (level : Nat) : List Value → List Char
  | [] => []
  | v :: vs => indent level ++ writeValue level v ++ [',', '\n'] ++ writeItems level vs

/-- The entries of a table in one piece. -/
def writeEntries : List (String × Value) → List (List Char)
  | [] => []
  | (name, v) :: rest => (writeName name ++ " = ".toList ++ writeValue 0 v) :: writeEntries rest

end

mutual

/-- Whether a value can be written: nothing in it is null. -/
def isWritable : Value → Bool
  | .null => false
  | .list items => areWritable items
  | .map entries => entriesAreWritable entries
  | _ => true

def areWritable : List Value → Bool
  | [] => true
  | v :: vs => isWritable v && areWritable vs

def entriesAreWritable : List (String × Value) → Bool
  | [] => true
  | (_, v) :: rest => isWritable v && entriesAreWritable rest

end

-- ---------------------------------------------------------------------------
-- Blocks
-- ---------------------------------------------------------------------------

def isTable : Value → Bool
  | .map _ => true
  | _ => false

/-- Whether a value, in one piece, fits a line as the item of a list. -/
def fitsLine (v : Value) : Bool :=
  let line := indent 1 ++ writeValue 0 v ++ [',']
  line.length ≤ lineLimit && !line.contains '\n'

/-- Whether the items of a list are written as blocks. -/
def haveBlocks (items : List Value) : Bool :=
  !items.isEmpty && items.all isTable && !items.all fitsLine

/-- Whether an entry is written as a block or blocks. -/
def hasBlocks : Value → Bool
  | .map _ => true
  | .list items => haveBlocks items
  | _ => false

def entryLine (entry : String × Value) : List Char :=
  writeName entry.1 ++ " = ".toList ++ writeValue 0 entry.2 ++ ['\n']

def headerLine (listed : Bool) (name : List Char) : List Char :=
  if listed then "[[".toList ++ name ++ "]]\n".toList else '[' :: name ++ "]\n".toList

/-- The block of a table of a given name, or of the document if there is none. -/
def ownBlock (name : Option (List Char)) (listed : Bool) (entries : List (String × Value)) :
    List (List Char) :=
  let lines := (entries.filter (!hasBlocks ·.2)).map entryLine
  let hasTables := entries.any (hasBlocks ·.2)
  let header := match name with
    | some name => if listed || !lines.isEmpty || !hasTables then [headerLine listed name] else []
    | none => []
  if (header ++ lines).isEmpty then [] else [(header ++ lines).flatten]

/-- The name of a table within another. -/
def innerName (outer : Option (List Char)) (name : String) : List Char :=
  outer.elim (writeName name) fun o => o ++ '.' :: writeName name

mutual

def entryBlocks (outer : Option (List Char)) : List (String × Value) → List (List Char)
  | [] => []
  | (name, v) :: rest => valueBlocks (innerName outer name) v ++ entryBlocks outer rest

def valueBlocks (name : List Char) : Value → List (List Char)
  | .map entries => ownBlock (some name) false entries ++ entryBlocks (some name) entries
  | .list items => if haveBlocks items then itemBlocks name items else []
  | _ => []

def itemBlocks (name : List Char) : List Value → List (List Char)
  | .map entries :: rest =>
    ownBlock (some name) true entries ++ entryBlocks (some name) entries ++ itemBlocks name rest
  | _ :: rest => itemBlocks name rest
  | [] => []

end

/-- The document for a table, unless something in it cannot be written. -/
def write? (t : List (String × Value)) : Option String :=
  if entriesAreWritable t then
    some (String.ofList (['\n'].intercalate (ownBlock none false t ++ entryBlocks none t)))
  else none

end FieldedSearch.Toml
