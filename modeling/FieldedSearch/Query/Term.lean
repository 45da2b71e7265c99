-- SUMMARY: Finding the constraints in a text, and writing values so that they are found again.
import FieldedSearch.Comparison
import FieldedSearch.Text.Blank
import FieldedSearch.Value

/-!
# Terms

A term is a field, a comparison and a value, with nothing in between. The field is a
whole run of field letters. The comparison is the first in the order of
`Comparison.bySymbol` whose symbol stands behind the field and leaves a value. The
value is a text in brackets, up to the first closing one, or a run of characters
that are neither blanks nor brackets. What belongs to no term is left over.
-/

namespace FieldedSearch.Query

/-- A constraint as it is written: only a text, or nothing for the word `null`. -/
structure Term where
  field : String
  comparison : Comparison
  value : Option String
deriving DecidableEq, Repr

-- ---------------------------------------------------------------------------
-- Characters
-- ---------------------------------------------------------------------------

/-- The characters of a field: ASCII letters, the full stop and the hyphen. -/
def isFieldLetter (c : Char) : Bool :=
  ('a' ≤ c && c ≤ 'z') || ('A' ≤ c && c ≤ 'Z') || c == '.' || c == '-'

/-- The characters of a value without brackets. -/
def isValueLetter (c : Char) : Bool := c != '[' && c != ']' && !Text.isBlank c

-- ---------------------------------------------------------------------------
-- Values
-- ---------------------------------------------------------------------------

/-- The word for no value. -/
def nullWord : String := "null"

/-- The value that a raw text stands for: brackets around it are taken off, and the
bare word `null` is no value. -/
def decodeValue (raw : String) : Option String :=
  let s := raw.toList
  if s.head? = some '[' ∧ s.getLast? = some ']' then some (String.ofList (s.drop 1).dropLast)
  else if raw = nullWord then none
  else some raw

/-- The text that stands for a text, in brackets where it would be read as
something else without them. -/
def encodeText (s : String) : String :=
  if s = "" ∨ s = nullWord ∨ s.toList.any Text.isBlank then "[" ++ s ++ "]" else s

/-- The text that stands for a value. -/
def encodeValue : Value → String
  | .null => nullWord
  | .bool b => if b then "1" else "0"
  | v => encodeText v.display

/-- A raw value at the head of a text, and what follows it. -/
def takeValue? : List Char → Option (List Char × List Char)
  | [] => none
  | c :: s =>
    if c = '[' then
      match s.dropWhile (· != ']') with
      | bracket :: rest => some (c :: s.takeWhile (· != ']') ++ [bracket], rest)
      | [] => none
    else if isValueLetter c then
      some ((c :: s).takeWhile isValueLetter, (c :: s).dropWhile isValueLetter)
    else none

-- ---------------------------------------------------------------------------
-- Terms
-- ---------------------------------------------------------------------------

/-- A comparison with its symbol at the head of a text that leaves a value. -/
def takeCompared? (c : Comparison) (s : List Char) : Option (Comparison × List Char × List Char) :=
  if c.symbol.toList.isPrefixOf s then
    (takeValue? (s.drop c.symbol.length)).map fun (raw, rest) => (c, raw, rest)
  else none

/-- The comparison and the raw value at the head of a text, and what follows them. -/
def takeComparison? (s : List Char) : Option (Comparison × List Char × List Char) :=
  Comparison.bySymbol.findSome? (takeCompared? · s)

theorem takeValue?_eq_some {s raw rest : List Char} (h : takeValue? s = some (raw, rest)) :
    s = raw ++ rest := by
  cases s with
  | nil => simp [takeValue?] at h
  | cons c s =>
    simp only [takeValue?] at h
    split at h
    · have hs := List.takeWhile_append_dropWhile (p := (· != ']')) (l := s)
      split at h
      · next bracket rest' hd =>
        simp only [Option.some.injEq, Prod.mk.injEq] at h
        obtain ⟨rfl, rfl⟩ := h
        rw [hd] at hs
        simp [hs]
      · simp at h
    · split at h
      · simp only [Option.some.injEq, Prod.mk.injEq] at h
        obtain ⟨rfl, rfl⟩ := h
        simp [List.takeWhile_append_dropWhile]
      · simp at h

theorem takeComparison?_eq_some {s raw rest : List Char} {c : Comparison}
    (h : takeComparison? s = some (c, raw, rest)) : s = c.symbol.toList ++ raw ++ rest := by
  obtain ⟨c', -, h⟩ := List.exists_of_findSome?_eq_some h
  unfold takeCompared? at h
  split at h
  · next hp =>
    obtain ⟨t, rfl⟩ := List.isPrefixOf_iff_prefix.1 hp
    obtain ⟨⟨r, q⟩, hv, heq⟩ := Option.map_eq_some_iff.1 h
    simp only [Prod.mk.injEq] at heq
    obtain ⟨rfl, rfl, rfl⟩ := heq
    have := takeValue?_eq_some hv
    simpa [← String.length_toList] using this
  · simp at h

theorem length_of_takeComparison? {s raw rest : List Char} {c : Comparison}
    (h : takeComparison? s = some (c, raw, rest)) : rest.length < s.length := by
  rw [takeComparison?_eq_some h]
  cases c <;> simp [Comparison.symbol] <;> omega

/-- The terms of a text in order, and what is left over. -/
def splitTerms : List Char → List Term × List Char
  | [] => ([], [])
  | c :: s =>
    if isFieldLetter c then
      let field := c :: s.takeWhile isFieldLetter
      have : (s.dropWhile isFieldLetter).length ≤ s.length :=
        (List.dropWhile_sublist _).length_le
      match h : takeComparison? (s.dropWhile isFieldLetter) with
      | some (comparison, raw, rest) =>
        have := length_of_takeComparison? h
        let (terms, left) := splitTerms rest
        (⟨String.ofList field, comparison, decodeValue (String.ofList raw)⟩ :: terms, left)
      | none =>
        let (terms, left) := splitTerms (s.dropWhile isFieldLetter)
        (terms, field ++ left)
    else
      let (terms, left) := splitTerms s
      (terms, c :: left)
termination_by s => s.length
decreasing_by
  all_goals simp only [List.length_cons]; omega

end FieldedSearch.Query
