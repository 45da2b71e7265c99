-- SUMMARY: How the terms of a text are found: what opens a value, which comparison is read, and one equation for each way a text can begin.
import Mathlib.Data.List.TakeWhile
import FieldedSearch.Query.Term

/-!
# Finding terms

A value opens with a value letter or with a bracket that is closed later on. A
comparison is read at the head of a text exactly if some symbol stands there with a
value opening behind it. A text is empty, or begins with a character that is no
field letter, or begins with a run of field letters that is a field or is none;
`splitTerms` has one equation for each of these, and `text_induction` is the
induction over them.
-/

namespace FieldedSearch.Query

variable {s t w raw rest : List Char} {a : Char} {c c' : Comparison}

/-! ## Runs of characters -/

/-- The head of a text, if it has one, is not in a class of characters. -/
def StopsAt (p : Char → Bool) (s : List Char) : Prop := ∀ a ∈ s.head?, p a = false

@[simp] theorem stopsAt_nil (p : Char → Bool) : StopsAt p [] := by
  simp [StopsAt]

@[simp] theorem stopsAt_cons {p : Char → Bool} : StopsAt p (a :: s) ↔ p a = false := by
  simp [StopsAt]

theorem stopsAt_of_append {p : Char → Bool} (h : StopsAt p (s ++ t)) : StopsAt p s := by
  cases s with
  | nil => exact stopsAt_nil p
  | cons a s => exact stopsAt_cons.2 (stopsAt_cons.1 h)

theorem stopsAt_dropWhile (p : Char → Bool) (s : List Char) : StopsAt p (s.dropWhile p) := by
  intro a ha
  have hne : s.dropWhile p ≠ [] := by
    intro h
    simp [h] at ha
  have hhead := List.head_dropWhile_not p hne
  rw [List.head?_eq_some_head hne] at ha
  cases ha
  simpa using hhead

/-- A run of a class up to a text that stops it is the whole run. -/
theorem takeWhile_append_stop {p : Char → Bool} (hw : ∀ a ∈ w, p a) (hs : StopsAt p s) :
    (w ++ s).takeWhile p = w := by
  rw [List.takeWhile_append_of_pos hw]
  cases s with
  | nil => simp
  | cons a s => simp [stopsAt_cons.1 hs]

theorem dropWhile_append_stop {p : Char → Bool} (hw : ∀ a ∈ w, p a) (hs : StopsAt p s) :
    (w ++ s).dropWhile p = s := by
  rw [List.dropWhile_append_of_pos hw]
  cases s with
  | nil => rfl
  | cons a s => simp [stopsAt_cons.1 hs]

theorem isValueLetter_of_isFieldLetter (h : isFieldLetter a) : isValueLetter a := by
  have hn : 45 ≤ a.toNat ∧ a.toNat ≤ 46 ∨ 65 ≤ a.toNat ∧ a.toNat ≤ 90 ∨
      97 ≤ a.toNat ∧ a.toNat ≤ 122 := by
    simp only [isFieldLetter, Bool.or_eq_true, Bool.and_eq_true, decide_eq_true_eq, beq_iff_eq,
      Char.le_def, UInt32.le_iff_toNat_le] at h
    rcases h with ((⟨h₁, h₂⟩ | ⟨h₁, h₂⟩) | rfl) | rfl
    · exact .inr (.inr ⟨h₁, h₂⟩)
    · exact .inr (.inl ⟨h₁, h₂⟩)
    · exact .inl ⟨by decide, by decide⟩
    · exact .inl ⟨by decide, by decide⟩
  have hopen : a ≠ '[' := by
    rintro rfl
    simp at hn
  have hclose : a ≠ ']' := by
    rintro rfl
    simp at hn
  have hblank : Text.isBlank a = false := by
    simp only [Text.isBlank, Bool.or_eq_false_iff, Bool.and_eq_false_iff, decide_eq_false_iff_not,
      beq_eq_false_iff_ne]
    omega
  simp [isValueLetter, hopen, hclose, hblank]

theorem not_isFieldLetter_of_isBlank (h : Text.isBlank a) : isFieldLetter a = false := by
  cases hf : isFieldLetter a with
  | false => rfl
  | true => simpa [isValueLetter, h] using isValueLetter_of_isFieldLetter hf

theorem isBlank_of_isFieldLetter (h : isFieldLetter a) : Text.isBlank a = false := by
  cases hb : Text.isBlank a with
  | false => rfl
  | true => rw [not_isFieldLetter_of_isBlank hb] at h; contradiction

theorem not_isValueLetter_of_isBlank (h : Text.isBlank a) : isValueLetter a = false := by
  simp [isValueLetter, h]

/-! ## Values -/

/-- Whether a value opens a text: with a value letter, or with a bracket that is
closed later on. -/
def opensValue : List Char → Bool
  | [] => false
  | a :: s => isValueLetter a || (a == '[' && s.contains ']')

theorem takeValue?_bracket (h : ']' ∉ s) :
    takeValue? ('[' :: s ++ ']' :: rest) = some ('[' :: s ++ [']'], rest) := by
  have hs : ∀ a ∈ s, (a != ']') = true := by
    intro a ha
    have : a ≠ ']' := by
      rintro rfl
      exact h ha
    simpa using this
  have hstop : StopsAt (· != ']') (']' :: rest) := by simp
  have htake := takeWhile_append_stop hs hstop
  have hdrop := dropWhile_append_stop hs hstop
  simp only [List.cons_append, takeValue?, ↓reduceIte, htake, hdrop]

theorem takeValue?_letters (hne : raw ≠ []) (hraw : ∀ a ∈ raw, isValueLetter a)
    (hrest : StopsAt isValueLetter rest) : takeValue? (raw ++ rest) = some (raw, rest) := by
  cases raw with
  | nil => exact absurd rfl hne
  | cons a raw =>
    have ha : isValueLetter a := hraw a (by simp)
    have hopen : a ≠ '[' := by
      rintro rfl
      simp [isValueLetter] at ha
    have htake := takeWhile_append_stop hraw hrest
    have hdrop := dropWhile_append_stop hraw hrest
    rw [List.cons_append] at htake hdrop
    rw [List.cons_append, takeValue?, if_neg hopen, if_pos ha, htake, hdrop]

theorem decodeValue_bracket (s : List Char) :
    decodeValue (String.ofList ('[' :: s ++ [']'])) = some (String.ofList s) := by
  have hlast : ('[' :: s ++ [']']).getLast? = some ']' := List.getLast?_concat
  rw [decodeValue, String.toList_ofList, hlast]
  simp

theorem decodeValue_letters (h : ∀ a ∈ raw, isValueLetter a) :
    decodeValue (String.ofList raw) =
      if String.ofList raw = nullWord then none else some (String.ofList raw) := by
  have hopen : raw.head? ≠ some '[' := by
    intro hh
    have := h '[' (List.mem_of_head? hh)
    simp [isValueLetter] at this
  simp [decodeValue, hopen]

/-- A raw value is a text in brackets, which are those nearest to each other, or a
whole run of value letters. -/
theorem takeValue?_cases (h : takeValue? s = some (raw, rest)) :
    (∃ body, raw = '[' :: body ++ [']'] ∧ ']' ∉ body) ∨
      (raw ≠ [] ∧ (∀ a ∈ raw, isValueLetter a) ∧ StopsAt isValueLetter rest) := by
  cases s with
  | nil => simp [takeValue?] at h
  | cons a s =>
    simp only [takeValue?] at h
    split at h
    · next ha =>
      split at h
      · next b rest' hd =>
        simp only [Option.some.injEq, Prod.mk.injEq] at h
        obtain ⟨rfl, rfl⟩ := h
        have hb : b = ']' := by
          have := stopsAt_dropWhile (· != ']') s
          rw [hd, stopsAt_cons] at this
          simpa using this
        refine .inl ⟨s.takeWhile (· != ']'), by rw [ha, hb], ?_⟩
        intro hmem
        simpa using List.mem_takeWhile_imp hmem
      · simp at h
    · split at h
      · next ha =>
        simp only [Option.some.injEq, Prod.mk.injEq] at h
        obtain ⟨rfl, rfl⟩ := h
        refine .inr ⟨by simp [ha], fun b hb => List.mem_takeWhile_imp hb, stopsAt_dropWhile _ _⟩
      · simp at h

theorem takeValue?_isSome (s : List Char) : (takeValue? s).isSome = opensValue s := by
  cases s with
  | nil => rfl
  | cons a s =>
    by_cases ha : a = '['
    · have hmem : ']' ∈ s ↔ s.dropWhile (· != ']') ≠ [] := by
        rw [ne_eq, List.dropWhile_eq_nil_iff]
        simp
      have hletter : isValueLetter '[' = false := by decide
      subst ha
      simp only [takeValue?, opensValue, hletter, ↓reduceIte, Bool.false_or, beq_self_eq_true,
        Bool.true_and]
      split
      · next hd => simp [hmem, hd]
      · next hd => simp [hmem, hd]
    · by_cases hletter : isValueLetter a <;> simp [takeValue?, opensValue, ha, hletter]

theorem takeValue?_eq_none_iff : takeValue? s = none ↔ opensValue s = false := by
  rw [← takeValue?_isSome, Option.isSome_eq_false_iff, Option.isNone_iff_eq_none]

/-! ## Comparisons -/

/-- The character that makes a symbol the beginning of a longer one. -/
def extension? : Comparison → Option Char
  | .greater | .less => some '='
  | .notEquals => some '~'
  | _ => none

theorem takeCompared?_append (c : Comparison) (t : List Char) :
    takeCompared? c (c.symbol.toList ++ t) =
      (takeValue? t).map fun (raw, rest) => (c, raw, rest) := by
  have hp : c.symbol.toList.isPrefixOf (c.symbol.toList ++ t) = true :=
    List.isPrefixOf_iff_prefix.2 (List.prefix_append _ _)
  have hd : (c.symbol.toList ++ t).drop c.symbol.length = t := by
    rw [← String.length_toList, List.drop_left]
  unfold takeCompared?
  rw [if_pos hp, hd]

theorem takeCompared?_eq_some (h : takeCompared? c s = some (c', raw, rest)) :
    c' = c ∧ ∃ t, s = c.symbol.toList ++ t ∧ takeValue? t = some (raw, rest) := by
  by_cases hp : c.symbol.toList.isPrefixOf s
  · obtain ⟨t, rfl⟩ := List.isPrefixOf_iff_prefix.1 hp
    rw [takeCompared?_append] at h
    obtain ⟨⟨r, q⟩, hv, heq⟩ := Option.map_eq_some_iff.1 h
    simp only [Prod.mk.injEq] at heq
    obtain ⟨rfl, rfl, rfl⟩ := heq
    exact ⟨rfl, t, rfl, hv⟩
  · simp [takeCompared?, hp] at h

/-- What is read of a comparison is its symbol and the value behind it. -/
theorem takeValue?_of_takeComparison? (h : takeComparison? s = some (c, raw, rest)) :
    ∃ t, s = c.symbol.toList ++ t ∧ takeValue? t = some (raw, rest) := by
  obtain ⟨c', -, h⟩ := List.exists_of_findSome?_eq_some h
  obtain ⟨rfl, ht⟩ := takeCompared?_eq_some h
  exact ht

theorem takeCompared?_eq_none (h : ∀ t, s = c.symbol.toList ++ t → opensValue t = false) :
    takeCompared? c s = none := by
  cases hc : takeCompared? c s with
  | none => rfl
  | some r =>
    obtain ⟨c', raw, rest⟩ := r
    obtain ⟨-, t, hs, ht⟩ := takeCompared?_eq_some hc
    have := takeValue?_isSome t
    rw [ht, h t hs] at this
    simp at this

/-- No comparison is read if no symbol at the head leaves a value. -/
theorem takeComparison?_eq_none_iff :
    takeComparison? s = none ↔
      ∀ (c : Comparison) (t : List Char), s = c.symbol.toList ++ t → opensValue t = false := by
  unfold takeComparison?
  rw [List.findSome?_eq_none_iff]
  constructor
  · rintro h c t rfl
    have hc := h c (Comparison.mem_bySymbol c)
    rw [takeCompared?_append, Option.map_eq_none_iff] at hc
    exact takeValue?_eq_none_iff.1 hc
  · intro h c _
    exact takeCompared?_eq_none (h c)

/-- Of the symbols that are tried before one, only the longer one can stand where it
stands. -/
theorem eq_extension_of_mem_takeWhile
    (hmem : c' ∈ Comparison.bySymbol.takeWhile (· != c))
    (h : c.symbol.toList ++ t = c'.symbol.toList ++ s) :
    ∃ e ∈ extension? c, t = e :: s := by
  cases c <;> cases c' <;> simp_all [Comparison.bySymbol, Comparison.symbol, extension?]

/-- A comparison is read with its own symbol unless a longer one leaves a value too. -/
theorem takeComparison?_append (ht : takeValue? t = some (raw, rest))
    (hext : ∀ e ∈ extension? c, ∀ u, t = e :: u → opensValue u = false) :
    takeComparison? (c.symbol.toList ++ t) = some (c, raw, rest) := by
  have hsplit : Comparison.bySymbol =
      Comparison.bySymbol.takeWhile (· != c) ++ c :: (Comparison.bySymbol.dropWhile (· != c)).tail := by
    cases c <;> rfl
  have hearlier : (Comparison.bySymbol.takeWhile (· != c)).findSome?
      (takeCompared? · (c.symbol.toList ++ t)) = none := by
    rw [List.findSome?_eq_none_iff]
    intro c' hc'
    apply takeCompared?_eq_none
    intro u hu
    obtain ⟨e, he, hte⟩ := eq_extension_of_mem_takeWhile hc' hu
    exact hext e he u hte
  unfold takeComparison?
  rw [hsplit, List.findSome?_append, hearlier, Option.none_or, List.findSome?_cons,
    takeCompared?_append, ht]
  rfl

theorem stopsAt_of_takeComparison? (h : takeComparison? s = some (c, raw, rest)) :
    StopsAt isFieldLetter s := by
  rw [takeComparison?_eq_some h]
  cases c <;> exact stopsAt_cons.2 (by decide)

/-! ## Terms -/

@[simp] theorem splitTerms_nil : splitTerms [] = ([], []) := by
  rw [splitTerms]

/-- A character that is no field letter is left over. -/
theorem splitTerms_cons (h : isFieldLetter a = false) :
    splitTerms (a :: s) = ((splitTerms s).1, a :: (splitTerms s).2) := by
  rw [splitTerms, if_neg (by simp [h])]

/-- Blanks are left over. -/
theorem splitTerms_blanks (hw : ∀ a ∈ w, Text.isBlank a) (s : List Char) :
    splitTerms (w ++ s) = ((splitTerms s).1, w ++ (splitTerms s).2) := by
  induction w with
  | nil => rfl
  | cons a w ih =>
    obtain ⟨ha, hw⟩ := List.forall_mem_cons.1 hw
    rw [List.cons_append, splitTerms_cons (not_isFieldLetter_of_isBlank ha), ih hw]
    rfl

/-- A run of field letters with a comparison behind it is the field of a term. -/
theorem splitTerms_term (hne : w ≠ []) (hw : ∀ a ∈ w, isFieldLetter a)
    (h : takeComparison? s = some (c, raw, rest)) :
    splitTerms (w ++ s) =
      (⟨String.ofList w, c, decodeValue (String.ofList raw)⟩ :: (splitTerms rest).1,
        (splitTerms rest).2) := by
  cases w with
  | nil => exact absurd rfl hne
  | cons a w =>
    have ha : isFieldLetter a := hw a (by simp)
    have hw' : ∀ b ∈ w, isFieldLetter b := fun b hb => hw b (by simp [hb])
    have hs := stopsAt_of_takeComparison? h
    have htake := takeWhile_append_stop hw' hs
    have hdrop := dropWhile_append_stop hw' hs
    rw [List.cons_append, splitTerms, if_pos ha]
    split
    · next c' raw' rest' h' =>
      rw [hdrop, h] at h'
      simp only [Option.some.injEq, Prod.mk.injEq] at h'
      obtain ⟨rfl, rfl, rfl⟩ := h'
      rw [htake]
    · next h' =>
      rw [hdrop, h] at h'
      simp at h'

/-- A whole run of field letters without a comparison behind it is left over. -/
theorem splitTerms_run (hw : ∀ a ∈ w, isFieldLetter a) (hs : StopsAt isFieldLetter s)
    (h : takeComparison? s = none) :
    splitTerms (w ++ s) = ((splitTerms s).1, w ++ (splitTerms s).2) := by
  cases w with
  | nil => rfl
  | cons a w =>
    have ha : isFieldLetter a := hw a (by simp)
    have hw' : ∀ b ∈ w, isFieldLetter b := fun b hb => hw b (by simp [hb])
    have htake := takeWhile_append_stop hw' hs
    have hdrop := dropWhile_append_stop hw' hs
    rw [List.cons_append, splitTerms, if_pos ha]
    split
    · next c' raw' rest' h' =>
      rw [hdrop, h] at h'
      simp at h'
    · simp only [hdrop, htake, List.cons_append]

/-- Induction over a text in the way in which its terms are found. -/
theorem text_induction {motive : List Char → Prop} (s : List Char)
    (nil : motive [])
    (cons : ∀ a s, isFieldLetter a = false → motive s → motive (a :: s))
    (run : ∀ w s, w ≠ [] → (∀ a ∈ w, isFieldLetter a) → StopsAt isFieldLetter s →
      takeComparison? s = none → motive s → motive (w ++ s))
    (term : ∀ w s c raw rest, w ≠ [] → (∀ a ∈ w, isFieldLetter a) →
      takeComparison? s = some (c, raw, rest) → motive rest → motive (w ++ s)) :
    motive s := by
  induction hn : s.length using Nat.strongRecOn generalizing s with
  | ind n ih =>
    cases s with
    | nil => exact nil
    | cons a s =>
      cases ha : isFieldLetter a with
      | false => exact cons a s ha (ih s.length (by simp [← hn]) s rfl)
      | true =>
        have hsplit : a :: s = (a :: s).takeWhile isFieldLetter ++ (a :: s).dropWhile isFieldLetter :=
          List.takeWhile_append_dropWhile.symm
        have hne : (a :: s).takeWhile isFieldLetter ≠ [] := by simp [ha]
        have hw : ∀ b ∈ (a :: s).takeWhile isFieldLetter, isFieldLetter b :=
          fun b hb => List.mem_takeWhile_imp hb
        have hlt : ((a :: s).dropWhile isFieldLetter).length < n := by
          rw [← hn, List.dropWhile_cons_of_pos ha]
          exact Nat.lt_succ_of_le (List.dropWhile_sublist _).length_le
        rw [hsplit]
        cases hc : takeComparison? ((a :: s).dropWhile isFieldLetter) with
        | none => exact run _ _ hne hw (stopsAt_dropWhile _ _) hc (ih _ hlt _ rfl)
        | some r =>
          obtain ⟨c, raw, rest⟩ := r
          have := length_of_takeComparison? hc
          exact term _ _ c raw rest hne hw hc (ih _ (by omega) _ rfl)

end FieldedSearch.Query
