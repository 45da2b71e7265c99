-- SUMMARY: Paths of files as they are written.

/-!
# Paths

A path is a list of names, from the root or from wherever it is used. Names that are
empty or `.` lead nowhere and are left out; `..` stays. A path that begins with exactly
two slashes keeps both.
-/

namespace FieldedSearch

/-- A path: the slashes it begins with, and its names in order. -/
structure Path where
  root : String
  names : List String
deriving DecidableEq, Repr, Inhabited

namespace Path

/-- The root of a path with a number of slashes in front. -/
def rootOf : Nat → String
  | 0 => ""
  | 2 => "//"
  | _ => "/"

/-- What stands between the slashes of a text. -/
def segments : List Char → List (List Char)
  | [] => [[]]
  | c :: s => if c = '/' then [] :: segments s else (segments s).modifyHead (c :: ·)

def ofText (s : String) : Path :=
  ⟨rootOf (s.toList.takeWhile (· = '/')).length,
    ((segments s.toList).map String.ofList).filter fun name => name ≠ "" && name ≠ "."⟩

def write (p : Path) : String :=
  if p.root = "" ∧ p.names = [] then "." else p.root ++ "/".intercalate p.names

def isAbsolute (p : Path) : Bool := p.root ≠ ""

def append (p : Path) (names : List String) : Path := { p with names := p.names ++ names }

end Path

end FieldedSearch
