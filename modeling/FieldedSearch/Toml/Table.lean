-- SUMMARY: Building the tables of a TOML document, and what may no longer be extended.
import FieldedSearch.Value

/-!
# TOML tables

A table is reached by a path of names. A name on the way that stands for a list of
tables leads to the last of them, one that stands for nothing to a new table. Some
paths are marked: a `frozen` one holds a list or a table written in one piece, to
which nothing can be added; a `declared` one had a header of its own or was opened
by a dotted name, and cannot get another header. A table opened by a dotted name is
`pending` until the next header and may be extended up to there.
-/

namespace FieldedSearch.Toml

/-- The names that lead to a value. -/
abbrev Path := List String

abbrev Table := List (String × Value)

namespace Table

/-- Change the table at a path. If lists are entered, a list stands for its last
table. -/
def change (enterLists : Bool) (f : Table → Option Table) : Path → Table → Option Table
  | [], t => f t
  | name :: path, t =>
    match Entries.get? t name with
    | none => (change enterLists f path []).map fun t' => Entries.put name (.map t') t
    | some (.map inner) =>
      (change enterLists f path inner).map fun t' => Entries.put name (.map t') t
    | some (.list items) =>
      match enterLists, items.getLast? with
      | true, some (.map inner) =>
        (change enterLists f path inner).map fun t' =>
          Entries.put name (.list (items.dropLast ++ [.map t'])) t
      | _, _ => none
    | some _ => none

/-- Give a new name a value. -/
def define (name : String) (v : Value) (t : Table) : Option Table :=
  if Entries.contains t name then none else some (Entries.put name v t)

/-- Add an empty table to the list of tables under a name. -/
def extendList (name : String) (t : Table) : Option Table :=
  match Entries.get? t name with
  | none => some (Entries.put name (.list [.map []]) t)
  | some (.list items) => some (Entries.put name (.list (items ++ [.map []])) t)
  | some _ => none

end Table

/-- The marks on paths. -/
structure Marks where
  declared : List Path
  frozen : List Path
  pending : List Path
deriving Repr

namespace Marks

def none : Marks := ⟨[], [], []⟩

def isDeclared (m : Marks) (p : Path) : Bool := m.declared.contains p

/-- Whether a path lies within a value written in one piece. -/
def isFrozen (m : Marks) (p : Path) : Bool := m.frozen.any (·.isPrefixOf p)

def declare (m : Marks) (p : Path) : Marks := { m with declared := p :: m.declared }

/-- Mark a path as frozen. -/
def freeze (m : Marks) (p : Path) : Marks := { m with frozen := p :: m.frozen }

/-- Mark paths as declared from the next header on. -/
def await (m : Marks) (ps : List Path) : Marks := { m with pending := ps ++ m.pending }

/-- Mark as declared what was to be from this header on. -/
def settle (m : Marks) : Marks :=
  { m with declared := m.pending ++ m.declared, pending := [] }

/-- Remove all marks at a path and beyond it. -/
def release (m : Marks) (p : Path) : Marks :=
  { m with
    declared := m.declared.filter (!p.isPrefixOf ·)
    frozen := m.frozen.filter (!p.isPrefixOf ·) }

end Marks

/-- Whether a value is made of others. -/
def isComposite : Value → Bool
  | .list _ | .map _ => true
  | _ => false

/-- A document as far as it is read: its tables, their marks, and the path of the
table under the last header. -/
structure Document where
  root : Table
  marks : Marks
  header : Path

namespace Document

def empty : Document := ⟨[], .none, []⟩

def openTable (d : Document) (p : Path) : Option Document :=
  let m := d.marks.settle
  if m.isDeclared p || m.isFrozen p then none
  else (Table.change true some p d.root).map fun root => ⟨root, m.declare p, p⟩

/-- Open the next table of a list of tables. -/
def openItem (d : Document) (p : Path) : Option Document :=
  let m := d.marks.settle
  if m.isFrozen p then none
  else do
    let name ← p.getLast?
    let root ← Table.change true (Table.extendList name) p.dropLast d.root
    return ⟨root, (m.release p).declare p, p⟩

/-- Define an entry of the open table by a path that leads on from it. -/
def define (d : Document) (p : Path) (v : Value) : Option Document := do
  let name ← p.getLast?
  let parent := d.header ++ p.dropLast
  let opened := (List.range (p.length - 1)).map fun i => d.header ++ p.take (i + 1)
  if opened.any d.marks.isDeclared || d.marks.isFrozen parent then none
  else
    let root ← Table.change true (Table.define name v) parent d.root
    let m := d.marks.await opened
    return ⟨root, if isComposite v then m.freeze (d.header ++ p) else m, d.header⟩

end Document

/-- A table written in one piece as far as it is read, and the paths of its entries
that are made of others. -/
structure InlineTable where
  entries : Table
  frozen : List Path

namespace InlineTable

/-- The table without entries. -/
def empty : InlineTable := ⟨[], []⟩

/-- Define an entry. -/
def define (t : InlineTable) (p : Path) (v : Value) : Option InlineTable := do
  let name ← p.getLast?
  if t.frozen.any (·.isPrefixOf p) then none
  else
    let entries ← Table.change false (Table.define name v) p.dropLast t.entries
    return ⟨entries, if isComposite v then p :: t.frozen else t.frozen⟩

end InlineTable

end FieldedSearch.Toml
