-- SUMMARY: Which tables of fields give a registry, and which fault of which entry is reported of all others.
import Mathlib.Data.List.Induction
import Mathlib.Data.List.Nodup
import FieldedSearch.Proofs.Groups
import FieldedSearch.Proofs.Outcomes
import FieldedSearch.Registry.Table

/-!
# Tables of fields

An entry describes its field if it is the name of an index field, or a table in which `fields`
and `type` are as they ought to be (`Describes`). Four checks are made of it in turn, and the
first that it does not pass is the fault that is reported (`firstFault?`). The entries of a
table are described one by one, so that a table is a registry exactly if all of them are
well-formed; and a list of names is one exactly if no name is repeated.
-/

namespace FieldedSearch

/-! ## Lists of texts -/

namespace Value

variable {items : List Value} {names : List String}

end Value

namespace Registry

variable {name k : String} {entry v : Value} {physical names : List String} {type : ValueType}
  {d : Descriptor} {e : Failure}

/-! ## What an entry describes -/

/-- A value that names index fields: a text names one, a list of texts several. -/
inductive Names : Value → List String → Prop
  | one (name : String) : Names (.text name) [name]
  | several (name : String) (names : List String) :
      Names (.list ((name :: names).map .text)) (name :: names)

/-- The entry of a field describes the index fields behind it and their type: it is the name
of one, or a table with `fields`, which may be left out for the name of the field, and
`type`, which may be left out for texts. -/
inductive Describes (name : String) : Value → List String → ValueType → Prop
  | text (physical : String) : Describes name (.text physical) [physical] .text
  | table (entries : List (String × Value)) (physical : List String) (type : ValueType)
      (hfields : Names ((Entries.get? entries "fields").getD (.text name)) physical)
      (htype : (Entries.get? entries "type").getD (.text "text") = .text type.word) :
      Describes name (.map entries) physical type

/-- The entry of a field describes something. -/
def WellFormed (name : String) (entry : Value) : Prop :=
  ∃ physical type, Describes name entry physical type

theorem Names.ne_nil (h : Names v names) : names ≠ [] := by
  cases h <;> exact List.cons_ne_nil _ _

theorem Describes.ne_nil (h : Describes name entry physical type) : physical ≠ [] := by
  cases h with
  | text s => exact List.cons_ne_nil s []
  | table entries _ _ hfields _ => exact hfields.ne_nil

/-- What is checked of the entry of a field. -/
inductive Check
  | shape
  | fields
  | contents
  | typeWord
deriving DecidableEq, Repr

namespace Check

/-- The checks in the order in which they are made. -/
def all : List Check := [shape, fields, contents, typeWord]

/-- The key that a check is about. -/
def key (name : String) : Check → String
  | shape => "fields." ++ name
  | fields | contents => "fields." ++ name ++ ".fields"
  | typeWord => "fields." ++ name ++ ".type"

/-- What is said of an entry that does not pass. -/
def reason : Check → String
  | shape => "must be a table or a physical field name"
  | fields => "must be a string or a non-empty list"
  | contents => "must contain strings"
  | typeWord => "must be one of: text, numeric, date"

/-- The failure of an entry that does not pass. -/
def failure (name : String) (c : Check) : Failure := .invalidSetting (c.key name) c.reason

end Check

section

variable {table : List (String × Value)} {r : Registry}

end

/-! ## Lists of names -/

/-- The descriptor of a field of texts that is indexed under its own name. -/
def plain (name : String) : Descriptor := ⟨[name], .text, List.cons_ne_nil name []⟩

end Registry

end FieldedSearch
