-- SUMMARY: The terms of a text are those of its grammar, found in the only way in which it can be taken apart.
import FieldedSearch.Proofs.Decomposition
import FieldedSearch.Proofs.Lexer

/-!
# The grammar of terms

A term stands in a text as a field, a comparison and a value with nothing in between. Its
field does not continue a run of field letters in front of it, its comparison is the first
that leaves a value, and its value ends at the first closing bracket or goes on as far as it
can. Brackets are no part of the value, and the bare word `null` stands for none. Between the
terms no run of field letters is followed by a comparison and a value. A text is made up in
this way by one decomposition only, and that is the one that `splitTerms` finds
(`existsUnique_terms`).
-/

namespace FieldedSearch.Query

variable {s t u v w raw rest : List Char} {a : Char} {c : Comparison}

/-! ## The grammar -/

/-- A value as it stands in a text, with brackets around it or without. -/
inductive Raw
  | bracketed (body : List Char)
  | bare (letters : List Char)

namespace Raw

def text : Raw → List Char
  | bracketed body => '[' :: body ++ [']']
  | bare letters => letters

/-- The value that is meant: what the brackets enclose, whatever that is, or what stands there,
unless it is the word `null`. -/
def value : Raw → Option String
  | bracketed body => some (String.ofList body)
  | bare letters => if letters = nullWord.toList then none else some (String.ofList letters)

/-- In front of a text a value in brackets ends at the first closing one, and a value without
is a run of value letters that the text does not continue. -/
def Stands (s : List Char) : Raw → Prop
  | bracketed body => ']' ∉ body
  | bare letters => letters ≠ [] ∧ (∀ a ∈ letters, isValueLetter a) ∧ StopsAt isValueLetter s

end Raw

/-- A term as it stands in a text. -/
@[ext]
structure Written where
  field : List Char
  comparison : Comparison
  raw : Raw

/-- The characters of a written term. -/
def Written.text (k : Written) : List Char :=
  k.field ++ (k.comparison.symbol.toList ++ k.raw.text)

/-- The term that is written. -/
def Written.term (k : Written) : Term := ⟨String.ofList k.field, k.comparison, k.raw.value⟩

/-- The last character of a text, if it has one, is no field letter. -/
def EndsApart (s : List Char) : Prop := ∀ a ∈ s.getLast?, isFieldLetter a = false

/-- A term stands behind one text and in front of another. -/
structure Written.Stands (u : List Char) (k : Written) (s : List Char) : Prop where
  field_ne_nil : k.field ≠ []
  letters : ∀ a ∈ k.field, isFieldLetter a
  apart : EndsApart u
  first : Comparison.bySymbol.find?
    (Lexer.leavesValue (k.comparison.symbol.toList ++ (k.raw.text ++ s))) = some k.comparison
  raw : k.raw.Stands s

/-- No whole run of field letters in one text has a comparison and the opening of a value
behind it, if the other text follows. -/
def Fieldless (u s : List Char) : Prop :=
  ∀ t w v, u = t ++ (w ++ v) → w ≠ [] → (∀ a ∈ w, isFieldLetter a) → EndsApart t →
    StopsAt isFieldLetter v → ∀ c, Lexer.leavesValue (v ++ s) c = false

/-- The items are terms, and between them is no field of a further one. -/
def termGrammar : Grammar Written where
  write := Written.text
  Item := Written.Stands
  Loose := Fieldless

/-! ## Comparisons and values -/

namespace Raw

variable {r r' : Raw}

/-- Of two values with the same characters, each is the other: no value letter is a bracket. -/
theorem eq_of_text (h : r.Stands s) (h' : r'.Stands t) (htext : r.text = r'.text) : r = r' := by
  have hletter : isValueLetter '[' = false := by decide
  have hne {body letters : List Char} (hletters : ∀ a ∈ letters, isValueLetter a)
      (hbody : '[' :: body ++ [']'] = letters) : False := by
    rw [hletters '[' (hbody ▸ List.mem_cons_self)] at hletter
    contradiction
  cases r with
  | bracketed body =>
    cases r' with
    | bracketed body' =>
      exact congrArg bracketed (List.append_cancel_right (List.cons.inj htext).2)
    | bare letters => exact (hne h'.2.1 htext).elim
  | bare letters =>
    cases r' with
    | bracketed body => exact (hne h.2.1 htext.symm).elim
    | bare letters' => exact congrArg bare htext

theorem decodeValue_text (h : r.Stands s) : decodeValue (String.ofList r.text) = r.value := by
  cases r with
  | bracketed body => exact decodeValue_bracket body
  | bare letters =>
    have hword : String.ofList letters = nullWord ↔ letters = nullWord.toList := by
      rw [← String.toList_inj, String.toList_ofList]
    rw [text, decodeValue_letters h.2.1, value]
    simp only [hword]

end Raw

theorem takeValue?_eq_some_iff :
    takeValue? s = some (raw, rest) ↔ ∃ r : Raw, r.Stands rest ∧ raw = r.text ∧ s = raw ++ rest := by
  constructor
  · intro h
    have hs := takeValue?_eq_some h
    rcases takeValue?_cases h with ⟨body, hraw, hbody⟩ | hraw
    · exact ⟨.bracketed body, hbody, hraw, hs⟩
    · exact ⟨.bare raw, hraw, rfl, hs⟩
  · rintro ⟨r, hr, rfl, rfl⟩
    cases r with
    | bracketed body =>
      rw [Raw.text, List.append_assoc]
      exact takeValue?_bracket hr
    | bare letters => exact takeValue?_letters hr.1 hr.2.1 hr.2.2

theorem find?_leavesValue (h : takeComparison? s = some (c, raw, rest)) :
    Comparison.bySymbol.find? (Lexer.leavesValue s) = some c := by
  have hread := Lexer.comparison?_eq s
  rw [h] at hread
  obtain ⟨c', hc', heq⟩ := Option.map_eq_some_iff.1 hread
  obtain ⟨hlexeme, -⟩ := Prod.mk.inj heq
  rwa [← Lexer.Lexeme.comparison.inj hlexeme]

theorem leavesValue_eq_false (h : takeComparison? s = none) (c : Comparison) :
    Lexer.leavesValue s c = false := by
  have hany := Lexer.any_leavesValue s
  rw [h, Option.isSome_none, List.any_eq_false] at hany
  simpa using hany c (Comparison.mem_bySymbol c)

theorem stopsAt_symbol (c : Comparison) (s : List Char) :
    StopsAt isFieldLetter (c.symbol.toList ++ s) := by
  cases c <;> exact stopsAt_cons.2 (by decide)

theorem symbol_ne (c : Comparison) : c.symbol ≠ "" := by
  cases c <;> decide

/-! ## One decomposition at most -/

theorem Written.text_append (k : Written) (s : List Char) :
    k.text ++ s = k.field ++ (k.comparison.symbol.toList ++ (k.raw.text ++ s)) := by
  simp [Written.text]

private theorem eq_nil_of_endsApart (h : EndsApart (u ++ w)) (hw : ∀ a ∈ w, isFieldLetter a) :
    w = [] := by
  by_contra hne
  have hlast : w.getLast hne ∈ (u ++ w).getLast? := by
    rw [List.getLast?_append, List.getLast?_eq_some_getLast hne]
    rfl
  have hletter := hw _ (List.getLast_mem hne)
  rw [h _ hlast] at hletter
  contradiction

private theorem apart_of_resumes (h : termGrammar.Resumes u t) (hne : t ≠ []) : EndsApart u := by
  cases h with
  | stop => contradiction
  | item k s hk => exact hk.apart

/-- A text without fields does not reach into a term: not beyond the field, which has a
comparison behind it, and not into the field, of which it would hold a part. -/
private theorem length_le_of_fieldless {k : Written} (hk : k.Stands u s) (hloose : Fieldless v t)
    (hresumes : termGrammar.Resumes v t) (htext : u ++ (k.text ++ s) = v ++ t) :
    v.length ≤ u.length := by
  rcases List.append_eq_append_iff.1 htext with ⟨x, rfl, hx⟩ | ⟨x, rfl, -⟩
  · rw [Written.text_append] at hx
    rcases List.append_eq_append_iff.1 hx with ⟨y, rfl, hy⟩ | ⟨y, hfield, rfl⟩
    · have hstop := stopsAt_symbol k.comparison (k.raw.text ++ s)
      rw [hy] at hstop
      have hstop := stopsAt_of_append hstop
      have hnone := hloose u k.field y rfl hk.field_ne_nil hk.letters hk.apart hstop k.comparison
      have hsome := List.find?_some hk.first
      rw [hy, hnone] at hsome
      contradiction
    · have hletters : ∀ a ∈ x, isFieldLetter a := fun a ha =>
        hk.letters a (hfield ▸ List.mem_append_left _ ha)
      have happart := apart_of_resumes hresumes (by simp [symbol_ne])
      rw [eq_nil_of_endsApart happart hletters, List.append_nil]
  · rw [List.length_append]
    exact Nat.le_add_right _ _

/-- Of two terms that stand in one place, each is the other. -/
private theorem eq_of_stands {k k' : Written} (hk : k.Stands u s) (hk' : k'.Stands u t)
    (htext : k.text ++ s = k'.text ++ t) : k = k' ∧ s = t := by
  rw [Written.text_append, Written.text_append] at htext
  have hfield := congrArg (List.takeWhile isFieldLetter) htext
  rw [takeWhile_append_stop hk.letters (stopsAt_symbol _ _),
    takeWhile_append_stop hk'.letters (stopsAt_symbol _ _)] at hfield
  rw [hfield] at htext
  have hrest := List.append_cancel_left htext
  have hcomparison : k.comparison = k'.comparison := by
    have hfirst := hk.first
    rw [hrest, hk'.first] at hfirst
    exact (Option.some.inj hfirst).symm
  rw [hcomparison] at hrest
  have hvalue : takeValue? (k.raw.text ++ s) = some (k'.raw.text, t) :=
    takeValue?_eq_some_iff.2 ⟨k'.raw, hk'.raw, rfl, List.append_cancel_left hrest⟩
  rw [takeValue?_eq_some_iff.2 ⟨k.raw, hk.raw, rfl, rfl⟩] at hvalue
  obtain ⟨hraw, hs⟩ := Prod.mk.inj (Option.some.inj hvalue)
  exact ⟨Written.ext hfield hcomparison (Raw.eq_of_text hk.raw hk'.raw hraw), hs⟩

theorem unambiguous_termGrammar : termGrammar.Unambiguous where
  write_ne_nil hk h := hk.field_ne_nil (List.append_eq_nil_iff.1 h).1
  length_le := length_le_of_fieldless
  item := eq_of_stands

/-! ## The decomposition that is found -/

theorem endsApart_nil : EndsApart [] := by
  intro a ha
  contradiction

private theorem endsApart_append (hne : s ≠ []) : EndsApart (w ++ s) ↔ EndsApart s := by
  unfold EndsApart
  rw [List.getLast?_append, List.getLast?_eq_some_getLast hne, Option.some_or]

private theorem endsApart_cons (ha : isFieldLetter a = false) (h : EndsApart s) :
    EndsApart (a :: s) := by
  cases s with
  | nil => simpa [EndsApart] using ha
  | cons b s => exact (endsApart_append (w := [a]) (List.cons_ne_nil b s)).2 h

private theorem Written.Stands.not_stopsAt {k : Written} (hk : k.Stands u s) (t : List Char) :
    ¬ StopsAt isFieldLetter (k.text ++ t) := by
  intro h
  obtain ⟨a, w, hfield⟩ := List.exists_cons_of_ne_nil hk.field_ne_nil
  rw [Written.text_append, hfield] at h
  have ha := hk.letters a (by rw [hfield]; exact List.mem_cons_self)
  rw [stopsAt_cons.1 h] at ha
  contradiction

/-- Where a comparison is read behind a whole run of field letters, a term stands. -/
private theorem exists_stands_of_takeComparison? (hne : w ≠ []) (hw : ∀ a ∈ w, isFieldLetter a)
    (h : takeComparison? s = some (c, raw, rest)) :
    ∃ r : Raw, raw = r.text ∧ Written.Stands [] ⟨w, c, r⟩ rest := by
  obtain ⟨t, -, ht⟩ := takeValue?_of_takeComparison? h
  obtain ⟨r, hr, rfl, -⟩ := takeValue?_eq_some_iff.1 ht
  refine ⟨r, rfl, ?_⟩
  constructor
  case field_ne_nil => exact hne
  case letters => exact hw
  case apart => exact endsApart_nil
  case first =>
    rw [← List.append_assoc, ← takeComparison?_eq_some h]
    exact find?_leavesValue h
  case raw => exact hr

theorem fieldless_nil (s : List Char) : Fieldless [] s := by
  intro t w v h hne
  simp only [List.nil_eq, List.append_eq_nil_iff] at h
  exact absurd h.2.1 hne

/-- In front of a text a character that is no field letter begins no field. -/
private theorem fieldless_cons (ha : isFieldLetter a = false) (h : Fieldless u s) :
    Fieldless (a :: u) s := by
  intro t w v heq hne hw ht
  cases t with
  | nil =>
    obtain ⟨b, w, rfl⟩ := List.exists_cons_of_ne_nil hne
    obtain ⟨rfl, -⟩ := List.cons.inj heq
    rw [hw a List.mem_cons_self] at ha
    contradiction
  | cons b t =>
    refine h t w v (List.cons.inj heq).2 hne hw ?_
    cases t with
    | nil => exact endsApart_nil
    | cons c t => exact (endsApart_append (w := [b]) (List.cons_ne_nil c t)).1 ht

/-- In front of a text a whole run of field letters is no field, if no comparison is read
behind it. -/
private theorem fieldless_run (hw : ∀ a ∈ w, isFieldLetter a) (hs : StopsAt isFieldLetter (u ++ s))
    (hc : takeComparison? (u ++ s) = none) (h : Fieldless u s) : Fieldless (w ++ u) s := by
  intro t w' v heq hne hw' ht hv
  rcases List.append_eq_append_iff.1 heq with ⟨x, rfl, rfl⟩ | ⟨x, rfl, hx⟩
  · refine h x w' v rfl hne hw' ?_ hv
    by_cases hnil : x = []
    · rw [hnil]
      exact endsApart_nil
    · exact (endsApart_append hnil).1 ht
  · -- no field begins within the run
    obtain rfl := eq_nil_of_endsApart (u := []) ht fun a ha => hw a (List.mem_append_left _ ha)
    rw [List.nil_append] at hw
    have hrun := congrArg (List.dropWhile isFieldLetter) hx
    rw [dropWhile_append_stop hw' hv, dropWhile_append_stop hw (stopsAt_of_append hs)] at hrun
    rw [hrun]
    exact leavesValue_eq_false hc

/-- What `splitTerms` finds is a decomposition into terms and texts without fields. -/
theorem exists_parses_termGrammar (s : List Char) :
    ∃ d, termGrammar.Parses d s ∧ splitTerms s = (d.items.map Written.term, d.between) := by
  induction s using text_induction with
  | nil => exact ⟨.last [], ⟨fieldless_nil [], rfl⟩, splitTerms_nil⟩
  | cons a s ha ih =>
    obtain ⟨d, hd, hsplit⟩ := ih
    refine ⟨d.prepend [a], hd.prepend (w := [a]) ?_ ?_, ?_⟩
    · rintro u t rfl hu
      exact fieldless_cons ha hu
    · rintro u k t rfl hk
      exact { hk with apart := endsApart_cons ha hk.apart }
    · rw [splitTerms_cons ha, hsplit, Decomposition.between_prepend, Decomposition.items_prepend]
      rfl
  | run w s hne hw hs hc ih =>
    obtain ⟨d, hd, hsplit⟩ := ih
    refine ⟨d.prepend w, hd.prepend ?_ ?_, ?_⟩
    · rintro u t rfl hu
      exact fieldless_run hw hs hc hu
    · rintro u k t rfl hk
      have hnil : u ≠ [] := by
        rintro rfl
        exact hk.not_stopsAt t hs
      exact { hk with apart := (endsApart_append hnil).2 hk.apart }
    · rw [splitTerms_run hw hs hc, hsplit, Decomposition.between_prepend,
        Decomposition.items_prepend]
  | term w s c raw rest hne hw hc ih =>
    obtain ⟨d, hd, hsplit⟩ := ih
    obtain ⟨r, rfl, hstands⟩ := exists_stands_of_takeComparison? hne hw hc
    refine ⟨.next [] ⟨w, c, r⟩ d, ?_, ?_⟩
    · have hnext : termGrammar.Parses (.next [] ⟨w, c, r⟩ d) (Written.text ⟨w, c, r⟩ ++ rest) :=
        hd.next (fieldless_nil _) hstands
      rwa [Written.text_append, ← List.append_assoc c.symbol.toList,
        ← takeComparison?_eq_some hc] at hnext
    · rw [splitTerms_term hne hw hc, hsplit, Raw.decodeValue_text hstands.raw]
      rfl

/-- A text is in one and only one way made up of terms and of texts without fields. Reading
it never fails, and finds these terms, and these texts put together for what is left over. -/
theorem existsUnique_terms (s : List Char) :
    ∃ d, termGrammar.Parses d s ∧ (∀ d', termGrammar.Parses d' s → d' = d) ∧
      splitTerms s = (d.items.map Written.term, d.between) ∧
      Lexer.read s = some (d.items.map Written.term, d.between) := by
  obtain ⟨d, hd, hsplit⟩ := exists_parses_termGrammar s
  refine ⟨d, hd, fun d' hd' => unambiguous_termGrammar.unique hd hd', hsplit, ?_⟩
  rw [Lexer.read_eq, hsplit]

example : splitTerms "age>= name:[a b]c".toList =
    ([⟨"age", .greater, some "="⟩, ⟨"name", .equals, some "a b"⟩], " c".toList) := by
  decide +kernel

end FieldedSearch.Query
