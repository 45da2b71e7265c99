-- SUMMARY: What is left over of a text contains no terms, and neither does what trimming makes of it.
import FieldedSearch.Proofs.Terms

/-!
# What is left over

The pieces that the terms of a text leave over are joined. No term arises from that:
in front of a term stands a character that is no field letter, and a comparison that
leaves no value in the text leaves none in the joined pieces either. Nor does a term
arise when a text without terms is cut at its end.
-/

namespace FieldedSearch.Query

variable {s t u : List Char} {a : Char}

/-- What the terms of a text leave over. -/
abbrev left (s : List Char) : List Char := (splitTerms s).2

/-- A text in which no term is found. -/
def Termless (s : List Char) : Prop := (splitTerms s).1 = []

/-- A text without terms is left over as it is. -/
theorem Termless.splitTerms_eq (h : Termless s) : splitTerms s = ([], s) := by
  induction s using text_induction with
  | nil => exact splitTerms_nil
  | cons a s ha ih =>
    simp only [Termless, splitTerms_cons ha] at h
    rw [splitTerms_cons ha, ih h]
  | run w s hne hw hs hc ih =>
    simp only [Termless, splitTerms_run hw hs hc] at h
    rw [splitTerms_run hw hs hc, ih h]
  | term w s c raw rest hne hw hc ih =>
    simp [Termless, splitTerms_term hne hw hc] at h

theorem left_sublist (s : List Char) : (left s).Sublist s := by
  induction s using text_induction with
  | nil => simp [left]
  | cons a s ha ih => rw [left, splitTerms_cons ha]; exact ih.cons_cons a
  | run w s hne hw hs hc ih =>
    unfold left
    rw [splitTerms_run hw hs hc]
    exact (List.Sublist.refl w).append ih
  | term w s c raw rest hne hw hc ih =>
    unfold left
    rw [splitTerms_term hne hw hc, takeComparison?_eq_some hc]
    exact ih.trans ((List.sublist_append_right _ _).trans (List.sublist_append_right _ _))

/-! ## Leftover text has no terms -/

private theorem opensValue_left (h : opensValue s = false) : opensValue (left s) = false := by
  cases s with
  | nil => rw [left, splitTerms_nil]; rfl
  | cons a s =>
    simp only [opensValue, Bool.or_eq_false_iff, Bool.and_eq_false_iff, beq_eq_false_iff_ne,
      List.contains_eq_mem, decide_eq_false_iff_not] at h
    have ha : isFieldLetter a = false := by
      cases hf : isFieldLetter a with
      | false => rfl
      | true => simp [isValueLetter_of_isFieldLetter hf] at h
    have hmem : ']' ∈ left s → ']' ∈ s := fun hm => (left_sublist s).mem hm
    unfold left
    rw [splitTerms_cons ha]
    simp only [opensValue, h.1, Bool.false_or, Bool.and_eq_false_iff, beq_eq_false_iff_ne,
      List.contains_eq_mem, decide_eq_false_iff_not]
    exact h.2.imp_right fun hs hm => hs (hmem hm)

/-- A symbol is one character, or two of which the first is a symbol. -/
private theorem symbol_shape (c : Comparison) :
    (∃ a, c.symbol.toList = [a]) ∨
      ∃ a b c', c.symbol.toList = [a, b] ∧ Comparison.symbol c' = String.ofList [a] := by
  cases c with
  | notLike => exact .inr ⟨'!', '~', .notEquals, rfl, rfl⟩
  | greaterOrEqual => exact .inr ⟨'>', '=', .greater, rfl, rfl⟩
  | lessOrEqual => exact .inr ⟨'<', '=', .less, rfl, rfl⟩
  | _ => exact .inl ⟨_, rfl⟩

private theorem takeComparison?_left (hs : StopsAt isFieldLetter s)
    (h : takeComparison? s = none) : takeComparison? (left s) = none := by
  rw [takeComparison?_eq_none_iff] at h ⊢
  intro c t ht
  cases s with
  | nil =>
    unfold left at ht
    rw [splitTerms_nil] at ht
    cases c <;> simp [Comparison.symbol] at ht
  | cons a s =>
    unfold left at ht
    rw [splitTerms_cons (stopsAt_cons.1 hs)] at ht
    rcases symbol_shape c with ⟨d, hd⟩ | ⟨d, e, c', hde, hc'⟩
    · rw [hd] at ht
      obtain ⟨rfl, rfl⟩ := List.cons.inj ht
      exact opensValue_left (h c s (by rw [hd, List.singleton_append]))
    · rw [hde] at ht
      obtain ⟨rfl, htail⟩ := List.cons.inj ht
      -- behind the first character of the symbol stands none that opens a value
      have hopens : opensValue s = false := by
        apply h c' s
        rw [hc', String.toList_ofList, List.singleton_append]
      cases s with
      | nil => simp at htail
      | cons b s =>
        have hb : isFieldLetter b = false := by
          cases hf : isFieldLetter b with
          | false => rfl
          | true => simp [opensValue, isValueLetter_of_isFieldLetter hf] at hopens
        rw [splitTerms_cons hb] at htail
        obtain ⟨rfl, rfl⟩ := List.cons.inj htail
        exact opensValue_left (h c s (by rw [hde]; rfl))

/-- Joining what the terms of a text leave over makes no new term. -/
theorem termless_left (s : List Char) : Termless (left s) := by
  induction s using text_induction with
  | nil => rw [left, splitTerms_nil, Termless, splitTerms_nil]
  | cons a s ha ih => rwa [left, splitTerms_cons ha, Termless, splitTerms_cons ha]
  | run w s hne hw hs hc ih =>
    have hstop : StopsAt isFieldLetter (left s) := by
      cases s with
      | nil =>
        unfold left
        rw [splitTerms_nil]
        exact stopsAt_nil _
      | cons a s =>
        have ha := stopsAt_cons.1 hs
        unfold left
        rw [splitTerms_cons ha]
        exact stopsAt_cons.2 ha
    rwa [left, splitTerms_run hw hs hc, Termless,
      splitTerms_run hw hstop (takeComparison?_left hs hc)]
  | term w s c raw rest hne hw hc ih => rwa [left, splitTerms_term hne hw hc]

/-! ## Trimming -/

private theorem opensValue_append (h : opensValue s) : opensValue (s ++ t) := by
  cases s with
  | nil => simp [opensValue] at h
  | cons a s =>
    simp only [opensValue, Bool.or_eq_true, Bool.and_eq_true, beq_iff_eq, List.contains_eq_mem,
      decide_eq_true_eq, List.cons_append] at h ⊢
    exact h.imp_right fun hopen => ⟨hopen.1, List.mem_append_left _ hopen.2⟩

/-- No term is found in a text that is cut at its end if none is found in the whole. -/
theorem Termless.of_append (h : Termless (s ++ t)) : Termless s := by
  induction s using text_induction with
  | nil => exact congrArg Prod.fst splitTerms_nil
  | cons a s ha ih =>
    unfold Termless at h
    rw [List.cons_append, splitTerms_cons ha] at h
    unfold Termless
    rw [splitTerms_cons ha]
    exact ih h
  | run w s hne hw hs hc ih =>
    unfold Termless
    rw [splitTerms_run hw hs hc]
    cases s with
    | nil => exact congrArg Prod.fst splitTerms_nil
    | cons a s =>
      have hstop : StopsAt isFieldLetter ((a :: s) ++ t) := stopsAt_cons.2 (stopsAt_cons.1 hs)
      rw [List.append_assoc] at h
      cases hc' : takeComparison? ((a :: s) ++ t) with
      | none =>
        unfold Termless at h
        rw [splitTerms_run hw hstop hc'] at h
        exact ih h
      | some r => rw [Termless, splitTerms_term hne hw hc'] at h; simp at h
  | term w s c raw rest hne hw hc ih =>
    cases hc' : takeComparison? (s ++ t) with
    | none =>
      obtain ⟨u, rfl, hu⟩ := takeValue?_of_takeComparison? hc
      have hopens : opensValue u := by rw [← takeValue?_isSome, hu]; rfl
      have hnone := takeComparison?_eq_none_iff.1 hc' c (u ++ t) (List.append_assoc _ _ _)
      rw [opensValue_append hopens] at hnone
      contradiction
    | some r => rw [Termless, List.append_assoc, splitTerms_term hne hw hc'] at h; simp at h

theorem Termless.trimStart (h : Termless s) : Termless (Text.trimStart s) := by
  induction s with
  | nil => exact h
  | cons a s ih =>
    by_cases ha : Text.isBlank a
    · unfold Termless at h
      rw [splitTerms_cons (not_isFieldLetter_of_isBlank ha)] at h
      rw [Text.trimStart, List.dropWhile_cons_of_pos ha]
      exact ih h
    · rwa [Text.trimStart, List.dropWhile_cons_of_neg ha]

/-- Only blanks are cut from the end of a text. -/
theorem exists_trimEnd (s : List Char) :
    ∃ t, (∀ a ∈ t, Text.isBlank a) ∧ Text.trimEnd s ++ t = s := by
  refine ⟨(s.reverse.takeWhile Text.isBlank).reverse, ?_, ?_⟩
  · intro a ha
    exact List.mem_takeWhile_imp (List.mem_reverse.1 ha)
  · rw [Text.trimEnd, ← List.reverse_append, List.takeWhile_append_dropWhile, List.reverse_reverse]

theorem Termless.trimEnd (h : Termless s) : Termless (Text.trimEnd s) := by
  obtain ⟨t, -, ht⟩ := exists_trimEnd s
  rw [← ht] at h
  exact h.of_append

/-- No term arises from trimming. -/
theorem Termless.trim (h : Termless s) : Termless (Text.trim s) := h.trimStart.trimEnd

end FieldedSearch.Query
