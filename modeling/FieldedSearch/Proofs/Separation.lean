-- SUMMARY: The terms of two texts with a blank between them are those of the one, then those of the other.
import Mathlib.Data.List.DropRight
import FieldedSearch.Proofs.Terms

/-!
# Texts with a blank between them

A blank ends whatever begins before it, except a value in brackets that has not been
closed yet. So two texts with a blank between them are read one by one, unless an
opening bracket of the first is closed by the second. This needs a field and a symbol in
front of the bracket, and then it always makes another term (`splitTerms_append_blank_iff`).
-/

namespace FieldedSearch.Query

variable {s t u raw rest : List Char} {b : Char} {c : Comparison}

/-- Every opening bracket has a closing one somewhere behind it. -/
def Closes (s : List Char) : Prop := ∀ t u, s = t ++ '[' :: u → ']' ∈ u

theorem Closes.of_append (h : Closes (s ++ t)) : Closes t := by
  intro p q hpq
  exact h (s ++ p) q (by rw [hpq, List.append_assoc])

theorem Closes.append (hs : Closes s) (ht : Closes t) : Closes (s ++ t) := by
  intro p q h
  rcases List.append_eq_append_iff.1 h with ⟨u, rfl, rfl⟩ | ⟨u, rfl, hq⟩
  · exact ht u q rfl
  · cases u with
    | nil => exact ht [] q (by simpa using hq.symm)
    | cons a u =>
      obtain ⟨rfl, rfl⟩ := List.cons.inj hq
      exact List.mem_append_left _ (hs p u rfl)

theorem closes_of_not_mem (h : '[' ∉ s) : Closes s := by
  rintro t u rfl
  simp at h

/-- Behind the last closing bracket of a text, or in the whole of it if there is none, stands
no opening one. -/
theorem closes_of_not_mem_rtakeWhile (h : '[' ∉ s.rtakeWhile (· != ']')) : Closes s := by
  rintro t u rfl
  by_contra hclose
  have hall : ∀ a ∈ ('[' :: u).reverse, (a != ']') = true := by
    intro a ha
    rcases List.mem_cons.1 (List.mem_reverse.1 ha) with rfl | ha
    · decide
    · exact bne_iff_ne.2 fun heq => hclose (heq ▸ ha)
  apply h
  rw [List.rtakeWhile, List.reverse_append, List.takeWhile_append_of_pos hall, List.mem_reverse]
  exact List.mem_append_left _ (List.mem_reverse.2 List.mem_cons_self)

theorem not_mem_symbol_of_isBlank (hb : Text.isBlank b) (c : Comparison) :
    b ∉ c.symbol.toList := by
  intro hmem
  have hall : ∀ c : Comparison, c.symbol.toList.all (!Text.isBlank ·) := by
    intro c
    cases c <;> decide
  have hnot := List.all_eq_true.1 (hall c) b hmem
  rw [hb] at hnot
  contradiction

/-- A symbol stands in front of an opening bracket that is not closed. -/
def LeavesOpen (s : List Char) : Prop :=
  ∃ (c : Comparison) (t : List Char), s = c.symbol.toList ++ '[' :: t ∧ ']' ∉ t

theorem Closes.not_leavesOpen (h : Closes s) : ¬ LeavesOpen s := by
  rintro ⟨c, t, rfl, ht⟩
  exact ht (h c.symbol.toList t rfl)

/-! ## Values and comparisons in front of a blank -/

private theorem stopsAt_append_blank (hb : Text.isBlank b) (h : StopsAt isFieldLetter s) :
    StopsAt isFieldLetter (s ++ b :: u) := by
  cases s with
  | nil => exact stopsAt_cons.2 (not_isFieldLetter_of_isBlank hb)
  | cons a s => exact stopsAt_cons.2 (stopsAt_cons.1 h)

private theorem opensValue_blank (hb : Text.isBlank b) (u : List Char) :
    opensValue (b :: u) = false := by
  have hne : b ≠ '[' := by
    rintro rfl
    contradiction
  simp [opensValue, not_isValueLetter_of_isBlank hb, hne]

private theorem opensValue_append_blank (hb : Text.isBlank b)
    (h : ∀ v, t = '[' :: v → ']' ∈ v ∨ ']' ∉ u) : opensValue (t ++ b :: u) = opensValue t := by
  cases t with
  | nil => exact opensValue_blank hb u
  | cons a t =>
    have hne : b ≠ ']' := by
      rintro rfl
      contradiction
    by_cases ha : a = '['
    · rcases h t (by rw [ha]) with hmem | hmem
      · simp [opensValue, ha, hmem]
      · simp [opensValue, ha, hmem, hne.symm]
    · have ha' : (a == '[') = false := by simpa using ha
      simp [opensValue, ha']

private theorem takeValue?_append_blank (hb : Text.isBlank b)
    (h : ∀ v, t = '[' :: v → ']' ∈ v ∨ ']' ∉ u) :
    takeValue? (t ++ b :: u) = (takeValue? t).map fun (raw, rest) => (raw, rest ++ b :: u) := by
  cases hv : takeValue? t with
  | none =>
    rw [takeValue?_eq_none_iff, ← opensValue_append_blank hb h] at hv
    exact takeValue?_eq_none_iff.2 hv
  | some r =>
    obtain ⟨raw, rest⟩ := r
    rw [takeValue?_eq_some hv, List.append_assoc, Option.map_some]
    rcases takeValue?_cases hv with ⟨body, rfl, hbody⟩ | ⟨hne, hraw, hstop⟩
    · have htake : takeValue? ('[' :: body ++ ']' :: (rest ++ b :: u)) =
          some ('[' :: body ++ [']'], rest ++ b :: u) := takeValue?_bracket hbody
      rw [List.append_assoc]
      exact htake
    · refine takeValue?_letters hne hraw ?_
      cases rest with
      | nil => exact stopsAt_cons.2 (not_isValueLetter_of_isBlank hb)
      | cons a rest => exact stopsAt_cons.2 (stopsAt_cons.1 hstop)

/-- A symbol in front of a text that ends at a blank lies within the text. -/
private theorem symbol_append_of_append_blank (hb : Text.isBlank b)
    (h : s ++ b :: u = c.symbol.toList ++ t) :
    ∃ t', s = c.symbol.toList ++ t' ∧ t = t' ++ b :: u := by
  rcases List.append_eq_append_iff.1 h with ⟨v, hsym, hv⟩ | ⟨v, hs, ht⟩
  · cases v with
    | nil => exact ⟨[], by simpa using hsym.symm, by simpa using hv.symm⟩
    | cons a v =>
      have hab : b = a := (List.cons.inj hv).1
      have hmem : b ∈ c.symbol.toList := by simp [hsym, hab]
      exact absurd hmem (not_mem_symbol_of_isBlank hb c)
  · exact ⟨v, hs, ht⟩

private theorem takeCompared?_append_blank (hb : Text.isBlank b)
    (h : ¬ LeavesOpen s ∨ ']' ∉ u) :
    takeCompared? c (s ++ b :: u) =
      (takeCompared? c s).map fun (c, raw, rest) => (c, raw, rest ++ b :: u) := by
  by_cases hp : c.symbol.toList.isPrefixOf s
  · obtain ⟨t, rfl⟩ := List.isPrefixOf_iff_prefix.1 hp
    have ht : ∀ v, t = '[' :: v → ']' ∈ v ∨ ']' ∉ u := by
      rintro v rfl
      refine h.imp_left fun hopen => ?_
      by_contra hv
      exact hopen ⟨c, v, rfl, hv⟩
    rw [List.append_assoc, takeCompared?_append, takeCompared?_append,
      takeValue?_append_blank hb ht]
    cases takeValue? t <;> rfl
  · have hnone : takeCompared? c (s ++ b :: u) = none := by
      apply takeCompared?_eq_none
      intro t hs
      obtain ⟨t', rfl, -⟩ := symbol_append_of_append_blank hb hs
      exact absurd (List.isPrefixOf_iff_prefix.2 (List.prefix_append _ _)) hp
    rw [hnone]
    simp [takeCompared?, hp]

/-- A comparison is read in front of a blank as it is read at the end of a text. -/
theorem takeComparison?_append_blank (hb : Text.isBlank b) (h : ¬ LeavesOpen s ∨ ']' ∉ u) :
    takeComparison? (s ++ b :: u) =
      (takeComparison? s).map fun (c, raw, rest) => (c, raw, rest ++ b :: u) := by
  rw [takeComparison?, takeComparison?, List.map_findSome?]
  congr 1
  funext c
  exact takeCompared?_append_blank hb h

/-- Behind any symbol a value in brackets is read up to the first closing one. -/
theorem takeComparison?_bracket (h : ']' ∉ s) :
    takeComparison? (c.symbol.toList ++ ('[' :: s ++ ']' :: t)) =
      some (c, '[' :: s ++ [']'], t) := by
  apply takeComparison?_append (takeValue?_bracket h)
  intro e he u hu
  obtain rfl : '[' = e := (List.cons.inj hu).1
  cases c <;> simp [extension?] at he

/-! ## Terms on both sides of a blank -/

/-- Where the terms of a text are looked for, a field and a symbol stand in front of an opening
bracket that is not closed. -/
inductive Dangling : List Char → Prop
  | here (w s : List Char) (hne : w ≠ []) (hw : ∀ a ∈ w, isFieldLetter a) (h : LeavesOpen s) :
    Dangling (w ++ s)
  | cons (a : Char) (s : List Char) (ha : isFieldLetter a = false) (h : Dangling s) :
    Dangling (a :: s)
  | run (w s : List Char) (hne : w ≠ []) (hw : ∀ a ∈ w, isFieldLetter a)
    (hs : StopsAt isFieldLetter s) (hc : takeComparison? s = none) (h : Dangling s) :
    Dangling (w ++ s)
  | term (w s : List Char) (c : Comparison) (raw rest : List Char) (hne : w ≠ [])
    (hw : ∀ a ∈ w, isFieldLetter a) (hc : takeComparison? s = some (c, raw, rest))
    (h : Dangling rest) : Dangling (w ++ s)

theorem Closes.not_dangling (h : Closes s) : ¬ Dangling s := by
  intro hs
  induction hs with
  | here w s hne hw hopen => exact h.of_append.not_leavesOpen hopen
  | cons a s ha _ ih => exact ih (Closes.of_append (s := [a]) h)
  | run w s hne hw hs hc _ ih => exact ih h.of_append
  | term w s c raw rest hne hw hc _ ih =>
    rw [takeComparison?_eq_some hc] at h
    exact ih h.of_append.of_append

/-- A bracket that is not closed in the first of two texts matters only in front of a symbol
that has a field, and only if the second text closes it. -/
theorem splitTerms_append_blank_of_not_dangling (hb : Text.isBlank b)
    (h : ¬ Dangling s ∨ ']' ∉ u) :
    splitTerms (s ++ b :: u) =
      ((splitTerms s).1 ++ (splitTerms u).1, (splitTerms s).2 ++ b :: (splitTerms u).2) := by
  have hbl : isFieldLetter b = false := not_isFieldLetter_of_isBlank hb
  induction s using text_induction with
  | nil => rw [List.nil_append, splitTerms_cons hbl, splitTerms_nil]; rfl
  | cons a s ha ih =>
    have ih := ih (h.imp_left fun hs hdangling => hs (.cons a s ha hdangling))
    rw [List.cons_append, splitTerms_cons ha, splitTerms_cons ha, ih]
    rfl
  | run w s hne hw hs hc ih =>
    have ih := ih (h.imp_left fun hs' hdangling => hs' (.run w s hne hw hs hc hdangling))
    have hopen : ¬ LeavesOpen s ∨ ']' ∉ u := h.imp_left fun hs' hopen => hs' (.here w s hne hw hopen)
    have hnone : takeComparison? (s ++ b :: u) = none := by
      rw [takeComparison?_append_blank hb hopen, hc, Option.map_none]
    rw [List.append_assoc, splitTerms_run hw (stopsAt_append_blank hb hs) hnone,
      splitTerms_run hw hs hc, ih]
    simp only [List.append_assoc]
  | term w s c raw rest hne hw hc ih =>
    have ih := ih (h.imp_left fun hs hdangling => hs (.term w s c raw rest hne hw hc hdangling))
    have hopen : ¬ LeavesOpen s ∨ ']' ∉ u := h.imp_left fun hs hopen => hs (.here w s hne hw hopen)
    have hsome : takeComparison? (s ++ b :: u) = some (c, raw, rest ++ b :: u) := by
      rw [takeComparison?_append_blank hb hopen, hc, Option.map_some]
    rw [List.append_assoc, splitTerms_term hne hw hsome, splitTerms_term hne hw hc, ih]
    rfl

/-- Two texts with a blank between them have the terms of both, and both leave over
what they leave over alone. -/
theorem splitTerms_append_blank (hb : Text.isBlank b) (h : Closes s ∨ ']' ∉ u) :
    splitTerms (s ++ b :: u) =
      ((splitTerms s).1 ++ (splitTerms u).1, (splitTerms s).2 ++ b :: (splitTerms u).2) :=
  splitTerms_append_blank_of_not_dangling hb (h.imp_left Closes.not_dangling)

/-! ## Brackets that are closed beyond a blank -/

private theorem exists_of_append_eq {w : List Char} (hw : ']' ∉ w)
    (h : w ++ s = t ++ ']' :: u) : ∃ v, t = w ++ v ∧ s = v ++ ']' :: u := by
  rcases List.append_eq_append_iff.1 h with ⟨v, ht, hs⟩ | ⟨v, rfl, hv⟩
  · exact ⟨v, ht, hs⟩
  · cases v with
    | nil => exact ⟨[], by simp, by simpa using hv.symm⟩
    | cons a v =>
      obtain ⟨rfl, -⟩ := List.cons.inj hv
      simp at hw

/-- What is read of a comparison ends at the first closing bracket, or in front of it. -/
private theorem exists_rest_of_takeComparison? (h : takeComparison? s = some (c, raw, rest))
    (hs : s = t ++ ']' :: u) (ht : ']' ∉ t) : rest = u ∨ ∃ v, rest = v ++ ']' :: u ∧ ']' ∉ v := by
  have hsymbol : ']' ∉ c.symbol.toList := by cases c <;> decide
  obtain ⟨x, rfl, hx⟩ := takeValue?_of_takeComparison? h
  obtain ⟨v, rfl, hv⟩ := exists_of_append_eq hsymbol hs
  have hv' : ']' ∉ v := fun hmem => ht (List.mem_append_right _ hmem)
  rw [takeValue?_eq_some hx] at hv
  rcases takeValue?_cases hx with ⟨body, rfl, hbody⟩ | ⟨-, hraw, -⟩
  · have hopen : ']' ∉ '[' :: body := by simpa using hbody
    rw [List.append_assoc, List.singleton_append] at hv
    obtain ⟨y, rfl, hy⟩ := exists_of_append_eq hopen hv
    cases y with
    | nil => exact .inl (List.cons.inj hy).2
    | cons a y =>
      obtain ⟨rfl, -⟩ := List.cons.inj hy
      simp at hv'
  · have hclose : ']' ∉ raw := fun hmem => absurd (hraw _ hmem) (by decide)
    obtain ⟨y, rfl, hy⟩ := exists_of_append_eq hclose hv
    exact .inr ⟨y, hy, fun hmem => hv' (List.mem_append_right raw hmem)⟩

/-- No term reaches from in front of the first closing bracket of a text to behind it, so that
what is behind it is left over as it is alone. -/
private theorem length_left_le (ht : ']' ∉ t) :
    (splitTerms u).2.length ≤ (splitTerms (t ++ ']' :: u)).2.length := by
  have hletters {w : List Char} (hw : ∀ a ∈ w, isFieldLetter a) : ']' ∉ w := fun hmem =>
    absurd (hw _ hmem) (by decide)
  generalize htext : t ++ ']' :: u = s
  induction s using text_induction generalizing t with
  | nil => exact absurd htext (by simp)
  | cons a s ha ih =>
    rw [splitTerms_cons ha]
    cases t with
    | nil =>
      obtain ⟨-, rfl⟩ := List.cons.inj htext
      exact Nat.le_succ _
    | cons b t =>
      obtain ⟨-, htext⟩ := List.cons.inj htext
      exact Nat.le_succ_of_le (ih (fun hmem => ht (List.mem_cons_of_mem b hmem)) htext)
  | run w s hne hw hs hc ih =>
    obtain ⟨v, rfl, hv⟩ := exists_of_append_eq (hletters hw) htext.symm
    have hle := ih (fun hmem => ht (List.mem_append_right w hmem)) hv.symm
    rw [splitTerms_run hw hs hc, List.length_append]
    exact Nat.le_add_left_of_le hle
  | term w s c raw rest hne hw hc ih =>
    rw [splitTerms_term hne hw hc]
    obtain ⟨v, rfl, hv⟩ := exists_of_append_eq (hletters hw) htext.symm
    have hv' : ']' ∉ v := fun hmem => ht (List.mem_append_right w hmem)
    rcases exists_rest_of_takeComparison? hc hv hv' with rfl | ⟨x, rfl, hx⟩
    · exact Nat.le_refl _
    · exact ih hx rfl

/-- A bracket that is closed only behind the blank takes with it what stands in front of the
closing one, the blank included. -/
private theorem length_left_of_leavesOpen {w : List Char} (hne : w ≠ [])
    (hw : ∀ a ∈ w, isFieldLetter a) (hopen : LeavesOpen s) (hb : Text.isBlank b)
    (hclose : ']' ∈ u) :
    (splitTerms (w ++ (s ++ b :: u))).2.length ≤ (splitTerms u).2.length := by
  obtain ⟨c, t, rfl, ht⟩ := hopen
  obtain ⟨x, y, rfl, hx⟩ := List.eq_append_cons_of_mem hclose
  have hbody : ']' ∉ t ++ b :: x := by
    have hne : ']' ≠ b := by
      rintro rfl
      contradiction
    simp [ht, hne, hx]
  have hread : takeComparison? (c.symbol.toList ++ '[' :: t ++ b :: (x ++ ']' :: y)) =
      some (c, '[' :: (t ++ b :: x) ++ [']'], y) := by
    have hbracket : takeComparison? (c.symbol.toList ++ ('[' :: (t ++ b :: x) ++ ']' :: y)) = _ :=
      takeComparison?_bracket hbody
    simpa only [List.append_assoc, List.cons_append] using hbracket
  rw [splitTerms_term hne hw hread]
  exact length_left_le hx

/-- Where a bracket of the first text is closed by the second, less is left over than of the
two alone. -/
private theorem length_left_of_dangling (hb : Text.isBlank b) (hclose : ']' ∈ u)
    (hs : Dangling s) : (splitTerms (s ++ b :: u)).2.length ≤
      (splitTerms s).2.length + (splitTerms u).2.length := by
  induction hs with
  | here w s hne hw hopen =>
    rw [List.append_assoc]
    exact Nat.le_add_left_of_le (length_left_of_leavesOpen hne hw hopen hb hclose)
  | cons a s ha _ ih =>
    rw [List.cons_append, splitTerms_cons ha, splitTerms_cons ha, List.length_cons,
      List.length_cons]
    omega
  | run w s hne hw hs hc _ ih =>
    rw [List.append_assoc]
    by_cases hopen : LeavesOpen s
    · exact Nat.le_add_left_of_le (length_left_of_leavesOpen hne hw hopen hb hclose)
    · have hnone : takeComparison? (s ++ b :: u) = none := by
        rw [takeComparison?_append_blank hb (.inl hopen), hc, Option.map_none]
      rw [splitTerms_run hw hs hc, splitTerms_run hw (stopsAt_append_blank hb hs) hnone,
        List.length_append, List.length_append]
      omega
  | term w s c raw rest hne hw hc _ ih =>
    rw [List.append_assoc, splitTerms_term hne hw hc]
    by_cases hopen : LeavesOpen s
    · exact Nat.le_add_left_of_le (length_left_of_leavesOpen hne hw hopen hb hclose)
    · have hsome : takeComparison? (s ++ b :: u) = some (c, raw, rest ++ b :: u) := by
        rw [takeComparison?_append_blank hb (.inl hopen), hc, Option.map_some]
      rw [splitTerms_term hne hw hsome]
      exact ih

/-- Two texts with a blank between them are read one by one if behind the last closing bracket
of the first stands no opening one, or the second has no closing one; and exactly if no bracket
that the first leaves open behind a field and a symbol is closed by the second. -/
theorem splitTerms_append_blank_iff (hb : Text.isBlank b) :
    ('[' ∉ s.rtakeWhile (· != ']') ∨ ']' ∉ u →
      splitTerms (s ++ b :: u) =
        ((splitTerms s).1 ++ (splitTerms u).1, (splitTerms s).2 ++ b :: (splitTerms u).2)) ∧
    (splitTerms (s ++ b :: u) =
        ((splitTerms s).1 ++ (splitTerms u).1, (splitTerms s).2 ++ b :: (splitTerms u).2) ↔
      ¬ Dangling s ∨ ']' ∉ u) := by
  constructor
  · intro h
    exact splitTerms_append_blank hb (h.imp_left closes_of_not_mem_rtakeWhile)
  · refine ⟨fun h => ?_, splitTerms_append_blank_of_not_dangling hb⟩
    by_contra hnot
    obtain ⟨hdangling, hclose⟩ := not_or.1 hnot
    have hle := length_left_of_dangling hb (not_not.1 hclose) (not_not.1 hdangling)
    rw [h, List.length_append, List.length_cons] at hle
    omega

/-- A bracket behind a blank belongs to no symbol, and one that stands open behind a symbol
takes in the blank. -/
theorem splitTerms_append_blank_towns :
    Text.isBlank '\t' ∧
      splitTerms "town:[old] age>\t[3] x".toList =
        ([⟨"town", .equals, some "old"⟩], " age>\t[3] x".toList) ∧
      splitTerms "age>[3\t4]".toList ≠
        ((splitTerms "age>[3".toList).1 ++ (splitTerms "4]".toList).1,
          (splitTerms "age>[3".toList).2 ++ '\t' :: (splitTerms "4]".toList).2) := by
  have htab : Text.isBlank '\t' := by decide
  refine ⟨htab, ?_, fun h => ?_⟩
  · have hclosed : '[' ∉ "town:[old] age>".toList.rtakeWhile (· != ']') := by decide +kernel
    have happend := (splitTerms_append_blank_iff (u := "[3] x".toList) htab).1 (.inl hclosed)
    have hfirst : splitTerms "town:[old] age>".toList =
        ([⟨"town", .equals, some "old"⟩], " age>".toList) := by decide +kernel
    have hsecond : splitTerms "[3] x".toList = ([], "[3] x".toList) := by decide +kernel
    rw [hfirst, hsecond] at happend
    exact happend
  · have hletters : "age".toList.all isFieldLetter := by decide +kernel
    have hage : Dangling ("age".toList ++ ">[3".toList) :=
      .here _ _ (by decide) (List.all_eq_true.1 hletters) ⟨.greater, ['3'], rfl, by decide⟩
    rcases (splitTerms_append_blank_iff (s := "age>[3".toList) htab).2.1 h with hnot | hclose
    · exact hnot hage
    · exact hclose (by decide)

end FieldedSearch.Query
