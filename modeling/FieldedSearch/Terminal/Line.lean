-- SUMMARY: Lines of a terminal: tabs, and fitting a line into a column.
import FieldedSearch.Text.Blank
import FieldedSearch.Text.Width

/-!
# Lines

A tab leads to the next multiple of eight columns. A line that is wider than its column
is broken in front of a word, blanks belonging to the word in front of them. A word that
is too wide by itself, or a line that is not to be broken, is cut, and an ellipsis takes
the last column.
-/

namespace FieldedSearch.Terminal

def lines (s : String) : List (List Char) := (s.splitOn "\n").map String.toList

-- ---------------------------------------------------------------------------
-- Tabs
-- ---------------------------------------------------------------------------

def tabSize : Nat := 8

/-- The parts of a line between tabs, the first of them beginning at a column. -/
def joinTabbed (start : Nat) : List (List Char) → List Char
  | [] => []
  | [part] => part
  | part :: rest =>
    let part := part ++ [' ']
    let width := start + Text.columns part
    let spaces := (tabSize - width % tabSize) % tabSize
    part ++ List.replicate spaces ' ' ++ joinTabbed (width + spaces) rest

/-- A line with spaces for its tabs. -/
def expandTabs (line : List Char) : List Char :=
  joinTabbed 0 (((String.ofList line).splitOn "\t").map String.toList)

-- ---------------------------------------------------------------------------
-- Breaking
-- ---------------------------------------------------------------------------

/-- The next word of a line with the blanks around it, and what follows. A line of
blanks has none. -/
def takeWord? (s : List Char) : Option (List Char × List Char) :=
  let blanks := s.takeWhile Text.isBlank
  let rest := s.dropWhile Text.isBlank
  let word := rest.takeWhile fun c => !Text.isBlank c
  let behind := rest.dropWhile fun c => !Text.isBlank c
  if word = [] then none
  else some (blanks ++ word ++ behind.takeWhile Text.isBlank, behind.dropWhile Text.isBlank)

/-- The lines that result when words are put into lines of a width, behind a line that
is begun and its width. -/
def fillLines (width : Nat) (begun : List Char) (used : Nat) : Nat → List Char → List (List Char)
  | 0, s => [begun ++ s]
  | fuel + 1, s =>
    match takeWord? s with
    | none => [begun ++ s]
    | some (word, rest) =>
      let size := Text.columns word
      if used + Text.columns (Text.trimEnd word) ≤ width then
        fillLines width (begun ++ word) (used + size) fuel rest
      else if begun = [] then fillLines width word size fuel rest
      else begun :: fillLines width word size fuel rest

/-- A line broken into lines of a width. -/
def breakLine (width : Nat) (line : List Char) : List (List Char) :=
  fillLines width [] 0 line.length line

-- ---------------------------------------------------------------------------
-- Fitting
-- ---------------------------------------------------------------------------

/-- A line without the blanks at its end, as far as it has more characters than columns
are there. -/
def dropBlanks (width : Nat) (line : List Char) : List Char :=
  let blanks := line.length - (Text.trimEnd line).length
  line.take (line.length - min blanks (line.length - width))

/-- The head of a line that takes a number of columns. Half of a wide character is a
space. -/
def head (width : Nat) : List Char → List Char
  | [] => []
  | c :: s =>
    let size := Text.charColumns c
    if size ≤ width then c :: head (width - size) s
    else if width = 0 then []
    else [' ']

def cut (width : Nat) (line : List Char) : List Char :=
  if Text.columns line ≤ width then line
  else if width ≤ 1 then ['…']
  else head (width - 1) line ++ ['…']

def fill (rightAligned : Bool) (width : Nat) (line : List Char) : List Char :=
  let spaces := List.replicate (width - Text.columns line) ' '
  if rightAligned then spaces ++ line else line ++ spaces

/-- The lines of a cell in a column of a width. Without any width there are none. Spaces
behind a joiner take no column, so a line may have to be filled up once more. -/
def fit (width : Nat) (unbroken rightAligned : Bool) (cell : String) : List (List Char) :=
  if width = 0 then []
  else
    (lines cell).flatMap fun line =>
      let line := expandTabs line
      (if unbroken then [line] else breakLine width line).map fun piece =>
        fill false width (fill rightAligned width (cut width (dropBlanks width piece)))

-- ---------------------------------------------------------------------------
-- Measuring
-- ---------------------------------------------------------------------------

/-- The characters at which a text is measured in pieces: line breaks, the separators of
groups and records, and the line and paragraph separators. -/
def isBreak (c : Char) : Bool :=
  c == '\n' || c == '\x0b' || c == '\x0c' || c == '\r' || c == '\x1c' || c == '\x1d' ||
    c == '\x1e' || c == '\u0085' || c == '\u2028' || c == '\u2029'

/-- The width of the widest piece, behind the piece (in reverse) that is begun. -/
def widest (piece : List Char) : List Char → Nat
  | [] => Text.columns piece.reverse
  | c :: s =>
    if isBreak c then max (Text.columns piece.reverse) (widest [] s) else widest (c :: piece) s

def cellWidth (cell : String) : Nat := widest [] cell.toList

end FieldedSearch.Terminal
