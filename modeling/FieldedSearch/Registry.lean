-- SUMMARY: The fields that may be searched, each with the index fields behind it.
import FieldedSearch.Failure

/-!
# Registries of fields

A search field stands for one or more fields of the index, all of one type. A
registry holds the search fields in the order of registration, each name once.
-/

namespace FieldedSearch

/-- The index fields behind a search field, and their type. -/
structure Descriptor where
  physical : List String
  type : ValueType
  nonempty : physical ≠ []
deriving DecidableEq, Repr

/-- A descriptor of the given index fields, if there are any. -/
def Descriptor.of (physical : List String) (type : ValueType) : Except Failure Descriptor :=
  if h : physical ≠ [] then .ok ⟨physical, type, h⟩ else .error .noPhysicalField

/-- The search fields in order of registration. -/
structure Registry where
  entries : List (String × Descriptor)
  distinct : (Entries.names entries).Nodup
deriving DecidableEq, Repr

namespace Registry

def empty : Registry := ⟨[], by simp [Entries.names]⟩

instance : Inhabited Registry := ⟨empty⟩

def names (r : Registry) : List String := Entries.names r.entries

def contains (r : Registry) (name : String) : Bool := r.names.contains name

def find? (r : Registry) (name : String) : Option Descriptor := Entries.get? r.entries name

/-- The descriptor of a field that has to be registered. -/
def resolve (r : Registry) (name : String) : Except Failure Descriptor :=
  match r.find? name with
  | some d => .ok d
  | none => .error (.unknownField name)

/-- The descriptor of what may be any value; only a text can be a field, and what holds
other values cannot even be looked up. -/
def resolveValue (r : Registry) : Value → Except Failure Descriptor
  | .text name => r.resolve name
  | .list _ | .map _ => .error .wrongKind
  | v => .error (.unknownField v.display)

def register (r : Registry) (name : String) (d : Descriptor) : Except Failure Registry :=
  if h : name ∈ r.names then .error (.duplicateField name)
  else .ok ⟨r.entries ++ [(name, d)], by
    simpa [Entries.names, List.nodup_append, names] using
      ⟨r.distinct, fun a b hab e => h (by simpa [names, Entries.names] using ⟨b, e ▸ hab⟩)⟩⟩

-- ---------------------------------------------------------------------------
-- Facts
-- ---------------------------------------------------------------------------

theorem contains_iff {r : Registry} {name : String} : r.contains name = true ↔ name ∈ r.names := by
  simp [contains]

theorem lookup_isSome_iff {β : Type} {entries : List (String × β)} {name : String} :
    (Entries.get? entries name).isSome ↔ name ∈ Entries.names entries := by
  induction entries with
  | nil => simp [Entries.get?, Entries.names]
  | cons e rest ih =>
    obtain ⟨n, v⟩ := e
    by_cases h : name = n
    · simp [Entries.get?, Entries.names, h]
    · have hb : (name == n) = false := by simpa using h
      simp only [Entries.get?, Entries.names] at ih
      simp [Entries.get?, Entries.names, List.lookup_cons, hb, h, ih]

/-- A field resolves exactly if its name is registered. -/
theorem find?_isSome_iff {r : Registry} {name : String} :
    (r.find? name).isSome ↔ r.contains name = true := by
  rw [contains_iff]; exact lookup_isSome_iff

end Registry

end FieldedSearch
