-- SUMMARY: Where files are, and directories that hold them.
import FieldedSearch.Failure
import FieldedSearch.Path

/-!
# Directories

A location is an absolute path without `..`. A path leads to one from the working
directory or from the root, or, if it begins with `~`, from the home directory of
whoever runs the program or of the user named behind it.

A file system holds files and directories. What lies below something that is not there,
or below a file, is not there either. A name that is too long is a failure of its own,
but only where a directory holds it. Directories that are missing come into being above
a file that is written, and stay even if the file cannot be written.
-/

namespace FieldedSearch

-- ---------------------------------------------------------------------------
-- Locations
-- ---------------------------------------------------------------------------

/-- An absolute path: the names that lead on from the root. -/
structure Location where
  names : List String
deriving DecidableEq, Repr, Inhabited

namespace Location

def write (l : Location) : String := "/" ++ "/".intercalate l.names

/-- The directory that a location lies in. The root lies in itself. -/
def parent (l : Location) : Location := ⟨l.names.dropLast⟩

def child (l : Location) (name : String) : Location := ⟨l.names ++ [name]⟩

/-- The names of a path with `..` and the name before it taken out. -/
def shorten (names : List String) : List String :=
  (names.foldl (fun taken name => if name = ".." then taken.drop 1 else name :: taken) []).reverse

end Location

/-- Where the program runs: the path of the home directory, the home directories of
users by name, and the working directory. -/
structure Place where
  home : String
  users : List (String × String)
  current : Location
deriving DecidableEq, Repr, Inhabited

namespace Place

/-- The character that stands for a home directory in front of a path. -/
def homeMark : Char := '~'

def isHome (name : String) : Bool := name.toList.head? = some homeMark

/-- The path of the home directory that a name behind `~` belongs to; no name means
whoever runs the program. -/
def homeOf (p : Place) (user : List Char) : Except Failure Path :=
  if '\x00' ∈ user then .error .nulInPath
  else
    match if user = [] then some p.home else p.users.lookup (String.ofList user) with
    | none => .error .homeless
    | some home =>
      if isHome home then .error .homeless
      else if home.toList.all (· = '/') then .ok (Path.ofText "/")
      else .ok (Path.ofText home)

/-- The path with the home directory in the place of `~`. -/
def expand (p : Place) (path : Path) : Except Failure Path :=
  match path.isAbsolute, path.names with
  | false, first :: rest =>
    if isHome first then (p.homeOf (first.toList.drop 1)).map (·.append rest) else .ok path
  | _, _ => .ok path

/-- The location that a path without `~` leads to. -/
def resolve (p : Place) (path : Path) : Except Failure Location :=
  if path.names.any ('\x00' ∈ ·.toList) then .error .nulInPath
  else
    .ok ⟨Location.shorten (if path.isAbsolute then path.names else p.current.names ++ path.names)⟩

def locate (p : Place) (path : Path) : Except Failure Location := do p.resolve (← p.expand path)

end Place

-- ---------------------------------------------------------------------------
-- File systems
-- ---------------------------------------------------------------------------

/-- What there is at a location. -/
inductive FileState
  | absent
  | directory
  | file (content : ByteArray)

/-- The files and directories below the root, and where the program runs. -/
structure Directory where
  place : Place
  directories : List Location
  files : List (Location × ByteArray)

namespace Directory

/-- The longest name that a file can have, in octets. -/
def nameLimit : Nat := 255

/-- The longest text that a location can have, in octets. -/
def pathLimit : Nat := 4095

/-- Whether a name is longer than a name can be. -/
def isTooLong (name : String) : Bool := nameLimit < name.utf8ByteSize

/-- What is entered for a location, whatever there is above it. -/
def entry (d : Directory) (l : Location) : FileState :=
  if l.names = [] || d.directories.contains l then .directory
  else
    match d.files.lookup l with
    | some content => .file content
    | none => .absent

/-- What there is at `whole`, when the names behind `l` are still to be followed. -/
def follow (d : Directory) (whole l : Location) : List String → Except Failure FileState
  | [] => .ok (d.entry l)
  | name :: rest =>
    match d.entry l with
    | .directory =>
      if isTooLong name then .error (.nameTooLong whole.write)
      else d.follow whole (l.child name) rest
    | _ => .ok .absent

def state (d : Directory) (l : Location) : Except Failure FileState :=
  if pathLimit < l.write.utf8ByteSize then .error (.nameTooLong l.write)
  else d.follow l ⟨[]⟩ l.names

/-- The path that is reported when a name above `whole` is too long: `whole` itself,
unless something had to be made on the way to the name. -/
def blamed (whole l : Location) (made : Bool) : String := (if made then l else whole).write

/-- Make the directories on the way from `l` to `whole`, and say whether one had to be
`made` before. -/
def make (d : Directory) (whole l : Location) (made : Bool) :
    List String → Directory × Option Failure
  | [] => (d, none)
  | name :: rest =>
    let next := l.child name
    if isTooLong name then (d, some (.nameTooLong (blamed whole next made)))
    else
      match d.entry next with
      | .directory => d.make whole next made rest
      | .file _ =>
        (d, some (if rest.isEmpty then .alreadyExists whole.write else .notADirectory whole.write))
      | .absent => { d with directories := d.directories ++ [next] }.make whole next true rest

def makeDirectory (d : Directory) (l : Location) : Directory × Option Failure :=
  if pathLimit < l.write.utf8ByteSize then (d, some (.nameTooLong l.write))
  else d.make l ⟨[]⟩ false l.names

/-- Put a file into a directory that is there, in the place of another file. -/
def put (d : Directory) (l : Location) (content : ByteArray) : Directory × Option Failure :=
  match d.entry l with
  | .directory => (d, some (.isDirectory l.write))
  | _ =>
    if l.names.getLast?.any isTooLong || pathLimit < l.write.utf8ByteSize then
      (d, some (.nameTooLong l.write))
    else ({ d with files := d.files.filter (·.1 ≠ l) ++ [(l, content)] }, none)

/-- Put a file at a location, in the place of another one. -/
def write (d : Directory) (l : Location) (content : ByteArray) : Directory × Option Failure :=
  match d.makeDirectory l.parent with
  | (d, none) => d.put l content
  | (d, some e) => (d, some e)

end Directory

end FieldedSearch
