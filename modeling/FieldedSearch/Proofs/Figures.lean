-- SUMMARY: The characters of numbers, dates and times, and that such texts survive in search strings.
import FieldedSearch.Proofs.Numerals
import FieldedSearch.Proofs.RoundTrip

/-!
# Figures

Whole numbers, dates, times and offsets are written with digits and a few signs between them.
None of these characters is a blank, a bracket or a parenthesis, and none continues the symbol
of a comparison, so a text of them comes back from a search string, and so do two such texts
with a space between them.
-/

namespace FieldedSearch

open Query

/-- Whether a character occurs in the texts of whole numbers, dates and times. -/
def isFigure (a : Char) : Bool := Text.isAsciiDigit a || ['-', ':', '.', '+'].contains a

variable {s t : List Char} {v : String}

theorem isBlank_of_isFigure {a : Char} (h : isFigure a) : Text.isBlank a = false := by
  rcases Bool.or_eq_true_iff.1 h with hdigit | hsign
  · exact Text.isBlank_of_isAsciiDigit hdigit
  · have hall : ['-', ':', '.', '+'].all (!Text.isBlank ·) := by decide
    simpa using List.all_eq_true.1 hall a (List.contains_iff_mem.1 hsign)

theorem not_mem_of_figures {a : Char} (h : ∀ a ∈ s, isFigure a) (ha : isFigure a = false) : a ∉ s := by
  intro hm
  rw [h a hm] at ha
  contradiction

/-! ## Texts of figures -/

theorem isFigure_decimal (n : Nat) : ∀ a ∈ Text.decimal n, isFigure a := by
  intro a ha
  rw [isFigure, (Text.isAsciiDigit_decimal n).2 a ha, Bool.true_or]

theorem isFigure_padded (width n : Nat) : ∀ a ∈ Text.padded width n, isFigure a := by
  refine List.forall_mem_append.2 ⟨fun a ha => ?_, isFigure_decimal n⟩
  rw [List.eq_of_mem_replicate ha]
  decide

theorem isFigure_decimalInt (n : Int) : ∀ a ∈ Text.decimalInt n, isFigure a := by
  cases n with
  | ofNat n => exact isFigure_decimal n
  | negSucc n => exact List.forall_mem_cons.2 ⟨rfl, isFigure_decimal (n + 1)⟩

theorem isFigure_date (d : Date) : ∀ a ∈ d.write, isFigure a := by
  simp only [Date.write, List.forall_mem_append, List.forall_mem_cons]
  exact ⟨⟨isFigure_padded 4 _, rfl, isFigure_padded 2 _⟩, rfl, isFigure_padded 2 _⟩

theorem isFigure_microsecond (n : Nat) : ∀ a ∈ writeMicrosecond n, isFigure a := by
  unfold writeMicrosecond
  split
  · exact List.forall_mem_nil _
  · exact List.forall_mem_cons.2 ⟨rfl, isFigure_padded 6 n⟩

theorem isFigure_clock (t : Clock) : ∀ a ∈ t.write, isFigure a := by
  simp only [Clock.write, List.forall_mem_append, List.forall_mem_cons]
  exact ⟨⟨⟨isFigure_padded 2 _, rfl, isFigure_padded 2 _⟩, rfl, isFigure_padded 2 _⟩,
    isFigure_microsecond _⟩

theorem isFigure_offset (o : Offset) : ∀ a ∈ o.write, isFigure a := by
  simp only [Offset.write, List.forall_mem_append, List.forall_mem_cons]
  refine ⟨⟨⟨?_, isFigure_padded 2 _⟩, rfl, isFigure_padded 2 _⟩, ?_⟩
  · split <;> rfl
  · split
    · exact List.forall_mem_nil _
    · exact List.forall_mem_append.2
        ⟨List.forall_mem_cons.2 ⟨rfl, isFigure_padded 2 _⟩, isFigure_microsecond _⟩

/-! ## Figures in search strings -/

theorem solid_of_figures (hne : s ≠ []) (h : ∀ a ∈ s, isFigure a) : Solid s :=
  ⟨⟨s.head hne, List.head?_eq_some_head hne, isBlank_of_isFigure (h _ (List.head_mem hne))⟩,
    s.getLast hne, List.getLast?_eq_some_getLast hne,
    isBlank_of_isFigure (h _ (List.getLast_mem hne))⟩

theorem solid_decimalInt (n : Int) : Solid (Text.decimalInt n) := by
  refine solid_of_figures ?_ (isFigure_decimalInt n)
  cases n with
  | ofNat n => exact (Text.isAsciiDigit_decimal n).1
  | negSucc n => exact List.cons_ne_nil _ _

theorem solid_date (d : Date) : Solid d.write :=
  solid_of_figures (by simp [Date.write]) (isFigure_date d)

/-- What stands behind the separator in a date with a time. -/
theorem isFigure_time (t : DateTime) :
    ∀ a ∈ t.clock.write ++ t.offset.elim [] Offset.write, isFigure a := by
  refine List.forall_mem_append.2 ⟨isFigure_clock t.clock, ?_⟩
  cases t.offset with
  | none => exact List.forall_mem_nil _
  | some o => exact isFigure_offset o

theorem solid_dateTime (t : DateTime) (separator : Char) : Solid (t.write separator) := by
  have htime : Solid (t.clock.write ++ t.offset.elim [] Offset.write) :=
    solid_of_figures (by simp [Clock.write]) (isFigure_time t)
  simpa [DateTime.write] using (solid_date t.date).append [separator] htime

theorem plain_of_figures (h : ∀ a ∈ s, isFigure a) : Plain s :=
  ⟨not_mem_of_figures h (by decide), not_mem_of_figures h (by decide)⟩

theorem survives_of_figures (h : ∀ a ∈ v.toList, isFigure a) (c : Comparison) :
    Survives c (some v) := by
  have hblank : v.toList.any Text.isBlank = false :=
    List.any_eq_false.2 fun a ha => by simp [isBlank_of_isFigure (h a ha)]
  refine .inr ⟨hblank, not_mem_of_figures h (by decide), not_mem_of_figures h (by decide), ?_⟩
  rintro ⟨-, e, he, hhead⟩
  have hextension : (extension? c).all (!isFigure ·) := by
    cases c <;> decide
  have he : isFigure e = false := by
    simpa using (Option.all_eq_true _ _).1 hextension e he
  exact not_mem_of_figures h he (List.mem_of_head? hhead)

/-- Figures before and behind a space survive in brackets. -/
theorem survives_of_space (hs : ∀ a ∈ s, isFigure a) (ht : ∀ a ∈ t, isFigure a) (c : Comparison) :
    Plain (s ++ ' ' :: t) ∧ Survives c (some (String.ofList (s ++ ' ' :: t))) := by
  have hmem {a : Char} (ha : isFigure a = false) (hspace : a ≠ ' ') : a ∉ s ++ ' ' :: t := by
    simp [not_mem_of_figures hs ha, not_mem_of_figures ht ha, hspace]
  refine ⟨⟨hmem (by decide) (by decide), hmem (by decide) (by decide)⟩, .inl ?_⟩
  rw [String.toList_ofList]
  refine ⟨List.any_eq_true.2 ⟨' ', ?_, by decide⟩, hmem (by decide) (by decide)⟩
  exact List.mem_append_right _ List.mem_cons_self

end FieldedSearch
