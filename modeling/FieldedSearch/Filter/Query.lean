-- SUMMARY: Reading a search string into a filter, and writing a filter as a search string.
import FieldedSearch.Filter
import FieldedSearch.Query.Part

/-!
# Filters and search strings

Reading a search string adds its terms to the filter as explicit constraints, each
in its group, and replaces the keywords by the remaining text of the root, unless
that is blank. It never fails.

A filter is written as the terms of group 0, then each further group in parentheses,
then the sort, then the keywords. Groups without terms are written too, so that the
groups behind them keep their numbers.
-/

namespace FieldedSearch.Filter

-- ---------------------------------------------------------------------------
-- Reading
-- ---------------------------------------------------------------------------

/-- The explicit constraint that a term states. -/
def termConstraint (t : Query.Term) : Constraint :=
  ⟨t.value.elim .null .text, t.comparison, false⟩

def addTerm (group : Nat) (f : Filter) (t : Query.Term) : Filter :=
  f.insert t.field (termConstraint t) group

/-- Replace the keywords by a text, unless it is blank. -/
def addKeywords (f : Filter) (text : String) : Filter :=
  let keywords := String.ofList (Text.trim text.toList)
  if keywords = "" then f else f.setKeywords (some keywords)

/-- Add the terms of a part, and the keywords if it is the root. -/
def addPart (f : Filter) (p : Query.Part) : Filter :=
  let f := p.terms.foldl (addTerm p.group) f
  if p.group = 0 then f.addKeywords p.text else f

/-- Add all that a search string says. -/
def addQuery (f : Filter) (query : String) : Filter := (Query.tokenize query).foldl addPart f

/-- The filter that a search string describes. -/
def ofQuery (r : Registry) (query : String) : Filter := (empty r).addQuery query

-- ---------------------------------------------------------------------------
-- Writing
-- ---------------------------------------------------------------------------

def writeConstraint (field : String) (c : Constraint) : String :=
  field ++ c.comparison.symbol ++ Query.encodeValue c.value

def writeFields (fields : FieldConstraints) : List String :=
  fields.flatMap fun (field, cs) => cs.map (writeConstraint field)

/-- A group: bare terms for the root, terms in parentheses for any other. -/
def writeGroup (groups : Groups) (group : Nat) : List String :=
  let terms := writeFields (groups.fields group)
  if 0 < group then ["(" ++ " ".intercalate terms ++ ")"]
  else if terms.isEmpty then []
  else [" ".intercalate terms]

/-- A reserved word with its value. -/
def writeWord (word value : String) : String := word ++ Comparison.equals.symbol ++ value

/-- The sort, as far as it differs from that of the empty filter. -/
def writeSort (f : Filter) : List String :=
  match f.sortField with
  | some field => [writeWord sortWord field ++ " " ++ writeWord orderWord f.sortOrder.word]
  | none =>
    if f.sortOrder = .descending then [] else [writeWord orderWord f.sortOrder.word]

def writeKeywords (f : Filter) : List String :=
  match f.keywords with
  | some k => if k = "" then [] else [k]
  | none => []

/-- The values of all constraints, in the order in which they are written. -/
def values (f : Filter) : List Value :=
  f.groups.flatMap fun (_, fields) => fields.flatMap fun (_, cs) => cs.map (·.value)

/-- The first value that cannot be written. -/
def unwritable? (f : Filter) : Option Value := f.values.find? (!·.isWritable)

def isWritable (f : Filter) : Bool := f.unwritable?.isNone

/-- The filter itself, if it can be written. -/
def ifWritable (f : Filter) : Except Failure Filter :=
  match f.unwritable? with
  | none => .ok f
  | some v => .error (.unwritable v)

theorem isWritable_iff_values {f : Filter} : f.isWritable ↔ ∀ v ∈ f.values, v.isWritable := by
  simp [isWritable, unwritable?]

theorem ifWritable_cases (f : Filter) : (f.isWritable = true ∧ f.ifWritable = .ok f) ∨
    ∃ v, f.isWritable = false ∧ f.ifWritable = .error (.unwritable v) := by
  unfold isWritable ifWritable
  cases f.unwritable? with
  | none => exact .inl ⟨rfl, rfl⟩
  | some v => exact .inr ⟨v, rfl, rfl⟩

/-- The search string that describes a filter. -/
def toQuery (f : Filter) : String :=
  let groups := (List.range (f.groups.highest + 1).toNat).flatMap (writeGroup f.groups)
  let text := " ".intercalate (groups ++ f.writeSort ++ f.writeKeywords)
  String.ofList (Text.trim text.toList)

end FieldedSearch.Filter
