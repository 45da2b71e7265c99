-- SUMMARY: Writing values as indented JSON in ASCII.
import FieldedSearch.Value

/-!
# Writing JSON

Every item stands on a line of its own, two spaces further in than its container.
Characters outside ASCII are escaped, those beyond the basic plane as a surrogate
pair. Dates and times are written as strings.
-/

namespace FieldedSearch.Json

/-- One escape for a code unit. -/
def escapeUnit (n : Nat) : List Char := '\\' :: 'u' :: Text.hex 4 n

/-- One character inside a string. -/
def escapeChar (c : Char) : List Char :=
  let n := c.toNat
  if c = '"' ∨ c = '\\' then ['\\', c]
  else if c = '\n' then ['\\', 'n']
  else if c = '\r' then ['\\', 'r']
  else if c = '\t' then ['\\', 't']
  else if c = '\x08' then ['\\', 'b']
  else if c = '\x0c' then ['\\', 'f']
  else if 0x20 ≤ n ∧ n < 0x7F then [c]
  else if n < 0x10000 then escapeUnit n
  else escapeUnit (0xD800 + (n - 0x10000) / 0x400) ++ escapeUnit (0xDC00 + (n - 0x10000) % 0x400)

def writeString (s : List Char) : List Char := '"' :: s.flatMap escapeChar ++ ['"']

/-- A number that may be infinite or none. -/
def writeDouble : Double → List Char
  | .nan => "NaN".toList
  | .infinite negative => (if negative then "-Infinity" else "Infinity").toList
  | x => x.write

/-- A line break, and spaces up to a depth. -/
def newline (depth : Nat) : List Char := '\n' :: List.replicate (2 * depth) ' '

/-- Lines between brackets. -/
def enclose (depth : Nat) (opening closing : Char) (lines : List (List Char)) : List Char :=
  if lines.isEmpty then [opening, closing]
  else
    opening :: newline (depth + 1) ++ (',' :: newline (depth + 1)).intercalate lines ++
      newline depth ++ [closing]

mutual

/-- A value inside `depth` containers. -/
def writeValue (depth : Nat) : Value → List Char
  | .null => "null".toList
  | .bool b => (if b then "true" else "false").toList
  | .int n => Text.decimalInt n
  | .float x => writeDouble x
  | .text s => writeString s.toList
  | .list items => enclose depth '[' ']' (writeItems (depth + 1) items)
  | .map entries => enclose depth '\x7b' '\x7d' (writeMembers (depth + 1) entries)
  | v => writeString v.display.toList

def writeItems (depth : Nat) : List Value → List (List Char)
  | [] => []
  | v :: vs => writeValue depth v :: writeItems depth vs

def writeMembers (depth : Nat) : List (String × Value) → List (List Char)
  | [] => []
  | (name, v) :: rest =>
    (writeString name.toList ++ ':' :: ' ' :: writeValue depth v) :: writeMembers depth rest

end

def write (v : Value) : String := String.ofList (writeValue 0 v)

end FieldedSearch.Json
