-- SUMMARY: A lexer for terms that sees one lexeme at a time and may find none; it never does, and it finds the terms of `splitTerms`.
import FieldedSearch.Proofs.Terms

/-!
# A lexer for terms

The lexer reads one lexeme after another. Outside a term it looks for a field, else
for blanks, else for a word; behind a field only for a comparison, and behind that only
for a value. A field has to have a comparison and the opening of a value behind it, a
comparison the opening of a value. The lexer stops without a result if no lexeme
matches, and the grammar refuses lexemes that make up no terms: neither ever happens
(`read_eq`), because what a field looks ahead for is what is matched behind it.
-/

namespace FieldedSearch.Query.Lexer

variable {s w rest : List Char} {a : Char} {c : Comparison}

/-! ## Lexemes -/

/-- A piece of a text. -/
inductive Lexeme
  | field (w : List Char)
  | comparison (c : Comparison)
  | value (raw : List Char)
  | blanks (w : List Char)
  | word (w : List Char)
deriving DecidableEq, Repr

/-- What is looked for: anything outside a term, or the next piece of a term. -/
inductive Expected
  | outside
  | comparison
  | value
deriving DecidableEq, Repr

/-- The text of a lexeme. -/
def Lexeme.text : Lexeme → List Char
  | field w | value w | blanks w | word w => w
  | comparison c => c.symbol.toList

/-- What is looked for behind a lexeme. -/
def Lexeme.next : Lexeme → Expected
  | field _ => .comparison
  | comparison _ => .value
  | _ => .outside

/-- Whether the symbol of a comparison stands at the head of a text and a value opens
behind it. -/
def leavesValue (s : List Char) (c : Comparison) : Bool :=
  c.symbol.toList.isPrefixOf s && opensValue (s.drop c.symbol.length)

/-- A whole run of field letters with a comparison and the opening of a value behind
it. A shorter run would have a letter behind it, which begins no symbol. -/
def field? (s : List Char) : Option (Lexeme × List Char) :=
  let w := s.takeWhile isFieldLetter
  let rest := s.dropWhile isFieldLetter
  if w ≠ [] ∧ Comparison.bySymbol.any (leavesValue rest) then some (.field w, rest) else none

/-- The first symbol behind which a value opens. -/
def comparison? (s : List Char) : Option (Lexeme × List Char) :=
  (Comparison.bySymbol.find? (leavesValue s)).map fun c =>
    (.comparison c, s.drop c.symbol.length)

/-- A value. -/
def value? (s : List Char) : Option (Lexeme × List Char) :=
  (takeValue? s).map fun (raw, rest) => (.value raw, rest)

/-- A whole run of blanks. -/
def blanks? (s : List Char) : Option (Lexeme × List Char) :=
  let w := s.takeWhile Text.isBlank
  if w = [] then none else some (.blanks w, s.dropWhile Text.isBlank)

/-- A whole run of field letters, or a single character that is neither a field letter
nor a blank. -/
def word? : List Char → Option (Lexeme × List Char)
  | [] => none
  | a :: s =>
    if isFieldLetter a then
      some (.word (a :: s.takeWhile isFieldLetter), s.dropWhile isFieldLetter)
    else if Text.isBlank a then none
    else some (.word [a], s)

/-- The lexeme at the head of a text, and what follows it. -/
def next? : Expected → List Char → Option (Lexeme × List Char)
  | .outside, s => (field? s).or ((blanks? s).or (word? s))
  | .comparison, s => comparison? s
  | .value, s => value? s

/-- Behind a lexeme the text goes on where the lexeme ends. -/
private def Splits (s : List Char) (l : Lexeme) (rest : List Char) : Prop :=
  s = l.text ++ rest ∧ l.text ≠ []

variable {l : Lexeme}

private theorem field?_eq_some (h : field? s = some (l, rest)) : Splits s l rest := by
  simp only [field?] at h
  split at h
  · next hw =>
    obtain ⟨rfl, rfl⟩ := Prod.mk.inj (Option.some.inj h)
    exact ⟨List.takeWhile_append_dropWhile.symm, hw.1⟩
  · contradiction

private theorem blanks?_eq_some (h : blanks? s = some (l, rest)) : Splits s l rest := by
  simp only [blanks?] at h
  split at h
  · contradiction
  · next hw =>
    obtain ⟨rfl, rfl⟩ := Prod.mk.inj (Option.some.inj h)
    exact ⟨List.takeWhile_append_dropWhile.symm, hw⟩

private theorem word?_eq_some (h : word? s = some (l, rest)) : Splits s l rest := by
  unfold word? at h
  split at h
  · contradiction
  · split at h
    · obtain ⟨rfl, rfl⟩ := Prod.mk.inj (Option.some.inj h)
      exact ⟨by simp [Lexeme.text], List.cons_ne_nil _ _⟩
    · split at h
      · contradiction
      · obtain ⟨rfl, rfl⟩ := Prod.mk.inj (Option.some.inj h)
        exact ⟨rfl, List.cons_ne_nil _ _⟩

private theorem comparison?_eq_some (h : comparison? s = some (l, rest)) : Splits s l rest := by
  obtain ⟨c, hc, heq⟩ := Option.map_eq_some_iff.1 h
  obtain ⟨rfl, rfl⟩ := Prod.mk.inj heq
  have hleaves : leavesValue s c := List.find?_some hc
  unfold leavesValue at hleaves
  rw [Bool.and_eq_true, List.isPrefixOf_iff_prefix] at hleaves
  obtain ⟨t, rfl⟩ := hleaves.1
  refine ⟨by simp [Lexeme.text, ← String.length_toList], ?_⟩
  cases c <;> exact List.cons_ne_nil _ _

private theorem value?_eq_some (h : value? s = some (l, rest)) : Splits s l rest := by
  obtain ⟨⟨raw, r⟩, hv, heq⟩ := Option.map_eq_some_iff.1 h
  obtain ⟨rfl, rfl⟩ := Prod.mk.inj heq
  refine ⟨takeValue?_eq_some hv, ?_⟩
  rcases takeValue?_cases hv with ⟨body, rfl, -⟩ | ⟨hne, -, -⟩
  · exact List.cons_ne_nil _ _
  · exact hne

/-- Whatever is looked for, a lexeme is the head of the text, and it is not empty. -/
theorem next?_eq_some {e : Expected} (h : next? e s = some (l, rest)) :
    s = l.text ++ rest ∧ l.text ≠ [] := by
  cases e with
  | outside =>
    simp only [next?, Option.or_eq_some_iff] at h
    rcases h with h | ⟨-, h | ⟨-, h⟩⟩
    · exact field?_eq_some h
    · exact blanks?_eq_some h
    · exact word?_eq_some h
  | comparison => exact comparison?_eq_some h
  | value => exact value?_eq_some h

theorem length_of_next? {e : Expected} {l : Lexeme} (h : next? e s = some (l, rest)) :
    rest.length < s.length := by
  obtain ⟨rfl, hne⟩ := next?_eq_some h
  have := List.length_pos_iff.2 hne
  rw [List.length_append]
  omega

/-- The lexemes of a text, if one is found wherever one is looked for and the text does
not end within a term. -/
def lexemes? (e : Expected) (s : List Char) : Option (List Lexeme) :=
  if s = [] then (if e = .outside then some [] else none)
  else
    match h : next? e s with
    | none => none
    | some (l, rest) =>
      have := length_of_next? h
      (lexemes? l.next rest).map (l :: ·)
termination_by s.length

/-- The terms that lexemes make up, and the text of the others, if the lexemes are
those of whole terms, blanks and words. -/
def terms? : List Lexeme → Option (List Term × List Char)
  | [] => some ([], [])
  | .field w :: .comparison c :: .value raw :: ls =>
    (terms? ls).map fun (ts, left) =>
      (⟨String.ofList w, c, decodeValue (String.ofList raw)⟩ :: ts, left)
  | .blanks w :: ls | .word w :: ls => (terms? ls).map fun (ts, left) => (ts, w ++ left)
  | _ => none

/-- The terms of a text and what is left over, read lexeme by lexeme. -/
def read (s : List Char) : Option (List Term × List Char) := (lexemes? .outside s).bind terms?

/-! ## What is found -/

private theorem leavesValue_eq (s : List Char) (c : Comparison) :
    leavesValue s c = (takeCompared? c s).isSome := by
  by_cases hp : c.symbol.toList.isPrefixOf s
  · simp [leavesValue, takeCompared?, hp, takeValue?_isSome]
  · simp [leavesValue, takeCompared?, hp]

/-- A symbol is looked for as `takeComparison?` does, only that the value behind it is
not taken yet. -/
theorem comparison?_eq (s : List Char) :
    comparison? s = (takeComparison? s).map fun (c, raw, rest) => (.comparison c, raw ++ rest) := by
  have h : ∀ cs : List Comparison,
      (cs.find? (leavesValue s)).map (fun c => (Lexeme.comparison c, s.drop c.symbol.length)) =
        (cs.findSome? (takeCompared? · s)).map fun (c, raw, rest) =>
          (.comparison c, raw ++ rest) := by
    intro cs
    induction cs with
    | nil => rfl
    | cons c cs ih =>
      rw [List.find?_cons, List.findSome?_cons, leavesValue_eq]
      cases hc : takeCompared? c s with
      | none => exact ih
      | some r =>
        obtain ⟨c', raw, rest⟩ := r
        obtain ⟨rfl, t, rfl, ht⟩ := takeCompared?_eq_some hc
        simp [← takeValue?_eq_some ht, ← String.length_toList]
  exact h Comparison.bySymbol

theorem any_leavesValue (s : List Char) :
    Comparison.bySymbol.any (leavesValue s) = (takeComparison? s).isSome := by
  have h := congrArg Option.isSome (comparison?_eq s)
  unfold comparison? at h
  rw [Option.isSome_map, Option.isSome_map] at h
  rw [← h, Bool.eq_iff_iff, List.any_eq_true, List.find?_isSome]

/-- Where a field is found, a comparison is found behind it, and behind that a value. -/
theorem exists_of_field? (h : field? s = some (.field w, rest)) :
    ∃ c t raw u, comparison? rest = some (.comparison c, t) ∧
      value? t = some (.value raw, u) ∧ takeComparison? rest = some (c, raw, u) := by
  simp only [field?] at h
  split at h
  · next hw =>
    simp only [Option.some.injEq, Prod.mk.injEq] at h
    obtain ⟨-, rfl⟩ := h
    rw [any_leavesValue, Option.isSome_iff_exists] at hw
    obtain ⟨-, ⟨c, raw, u⟩, hc⟩ := hw
    obtain ⟨t, -, ht⟩ := takeValue?_of_takeComparison? hc
    refine ⟨c, t, raw, u, ?_, by rw [value?, ht]; rfl, hc⟩
    rw [comparison?_eq, hc, takeValue?_eq_some ht]
    rfl
  · simp at h

private theorem lexemes?_next {e : Expected} {l : Lexeme} (h : next? e s = some (l, rest)) :
    lexemes? e s = (lexemes? l.next rest).map (l :: ·) := by
  have hne : s ≠ [] := by
    rintro rfl
    have := length_of_next? h
    simp at this
  rw [lexemes?, if_neg hne]
  split
  · next h' => rw [h] at h'; simp at h'
  · next h' =>
    rw [h] at h'
    simp only [Option.some.injEq, Prod.mk.injEq] at h'
    obtain ⟨rfl, rfl⟩ := h'
    rfl

/-- Blanks and words are left over. -/
private theorem read_text {l : Lexeme} (hl : l = .blanks w ∨ l = .word w)
    (h : next? .outside s = some (l, rest)) :
    read s = (read rest).map fun (ts, left) => (ts, w ++ left) := by
  rw [read, lexemes?_next h]
  rcases hl with rfl | rfl <;> cases hr : lexemes? .outside rest <;>
    simp [read, Lexeme.next, hr, terms?]

/-- A field, a comparison and a value are a term. -/
private theorem read_term {u raw : List Char} (h : field? s = some (.field w, rest))
    (hc : takeComparison? rest = some (c, raw, u)) :
    read s = (read u).map fun (ts, left) =>
      (⟨String.ofList w, c, decodeValue (String.ofList raw)⟩ :: ts, left) := by
  obtain ⟨c', t, raw', u', hcomparison, hvalue, hc'⟩ := exists_of_field? h
  rw [hc] at hc'
  simp only [Option.some.injEq, Prod.mk.injEq] at hc'
  obtain ⟨rfl, rfl, rfl⟩ := hc'
  have hfield : next? .outside s = some (.field w, rest) := by rw [next?, h, Option.some_or]
  have hlexemes : lexemes? .outside s =
      (lexemes? .outside u).map (.field w :: .comparison c :: .value raw :: ·) := by
    have h₁ : lexemes? .comparison rest = (lexemes? .value t).map (.comparison c :: ·) :=
      lexemes?_next hcomparison
    have h₂ : lexemes? .value t = (lexemes? .outside u).map (.value raw :: ·) :=
      lexemes?_next hvalue
    rw [lexemes?_next hfield]
    simp only [Lexeme.next, h₁, h₂, Option.map_map]
    rfl
  rw [read, hlexemes]
  cases hr : lexemes? .outside u <;> simp [read, hr, terms?]

private theorem field?_eq_none (ha : isFieldLetter a = false) : field? (a :: s) = none := by
  simp [field?, ha]

private theorem read_letters (ha : isFieldLetter a)
    (ih : ∀ t, t.length < (a :: s).length → read t = some (splitTerms t)) :
    read (a :: s) = some (splitTerms (a :: s)) := by
  have hne : (a :: s).takeWhile isFieldLetter ≠ [] := by simp [ha]
  have hw : ∀ b ∈ (a :: s).takeWhile isFieldLetter, isFieldLetter b :=
    fun b hb => List.mem_takeWhile_imp hb
  have hstop := stopsAt_dropWhile isFieldLetter (a :: s)
  have hsplit := List.takeWhile_append_dropWhile (p := isFieldLetter) (l := a :: s)
  have hlt : ((a :: s).dropWhile isFieldLetter).length < (a :: s).length := by
    rw [List.dropWhile_cons_of_pos ha]
    exact Nat.lt_succ_of_le (List.dropWhile_sublist _).length_le
  cases hc : takeComparison? ((a :: s).dropWhile isFieldLetter) with
  | some r =>
    obtain ⟨c, raw, u⟩ := r
    have hfield : field? (a :: s) = some (.field ((a :: s).takeWhile isFieldLetter),
        (a :: s).dropWhile isFieldLetter) := by
      rw [field?, if_pos ⟨hne, by rw [any_leavesValue, hc]; rfl⟩]
    have hu := length_of_takeComparison? hc
    rw [read_term hfield hc, ih u (by omega)]
    conv => rhs; rw [← hsplit, splitTerms_term hne hw hc]
    rfl
  | none =>
    have hblank : Text.isBlank a = false := by
      cases hb : Text.isBlank a with
      | false => rfl
      | true => rw [not_isFieldLetter_of_isBlank hb] at ha; contradiction
    have hfield : field? (a :: s) = none := by
      rw [field?, if_neg (by simp [any_leavesValue, hc])]
    have hnext : next? .outside (a :: s) = some (.word ((a :: s).takeWhile isFieldLetter),
        (a :: s).dropWhile isFieldLetter) := by
      simp [next?, hfield, blanks?, word?, hblank, ha]
    rw [read_text (.inr rfl) hnext, ih _ hlt]
    conv => rhs; rw [← hsplit, splitTerms_run hw hstop hc]
    rfl

private theorem read_blanks (hb : Text.isBlank a)
    (ih : ∀ t, t.length < (a :: s).length → read t = some (splitTerms t)) :
    read (a :: s) = some (splitTerms (a :: s)) := by
  have hsplit := List.takeWhile_append_dropWhile (p := Text.isBlank) (l := a :: s)
  have hnext : next? .outside (a :: s) = some (.blanks ((a :: s).takeWhile Text.isBlank),
      (a :: s).dropWhile Text.isBlank) := by
    simp [next?, field?_eq_none (not_isFieldLetter_of_isBlank hb), blanks?, hb]
  have hlt : ((a :: s).dropWhile Text.isBlank).length < (a :: s).length := by
    rw [List.dropWhile_cons_of_pos hb]
    exact Nat.lt_succ_of_le (List.dropWhile_sublist _).length_le
  rw [read_text (.inl rfl) hnext, ih _ hlt]
  conv => rhs; rw [← hsplit, splitTerms_blanks fun b hb => List.mem_takeWhile_imp hb]
  rfl

/-- Lexeme by lexeme, a text is read without fail, and as `splitTerms` reads it. -/
theorem read_eq (s : List Char) : read s = some (splitTerms s) := by
  -- a lexeme takes a whole run where `splitTerms` takes one blank, so by the length
  induction hn : s.length using Nat.strongRecOn generalizing s with
  | ind n ih =>
    have ih : ∀ t : List Char, t.length < s.length → read t = some (splitTerms t) :=
      fun t ht => ih t.length (by omega) t rfl
    cases s with
    | nil =>
      rw [splitTerms_nil, read, lexemes?]
      rfl
    | cons a s =>
      cases ha : isFieldLetter a with
      | true => exact read_letters ha ih
      | false =>
        cases hb : Text.isBlank a with
        | true => exact read_blanks hb ih
        | false =>
          have hnext : next? .outside (a :: s) = some (.word [a], s) := by
            simp [next?, field?_eq_none ha, blanks?, word?, hb, ha]
          rw [read_text (.inr rfl) hnext, ih s (by simp), splitTerms_cons ha]
          rfl

end FieldedSearch.Query.Lexer
