-- SUMMARY: What is prepared of a date is a whole number in its one canonical form, and stays as it is.
import FieldedSearch.Proofs.Refusals

/-!
# Prepared dates

A date is written in many ways: as seconds with signs, underscores, leading noughts and digits
of any script, or in the notations of ISO 8601. What is prepared of it is the decimal text of
its timestamp, which has one form only (`Text.IsCanonical`); read as a date again, this text is
prepared as itself.
-/

namespace FieldedSearch

/-! ## Canonical numerals -/

namespace Text

/-- ASCII digits of which the first is not nought. -/
structure IsMagnitude (s : List Char) : Prop where
  ne_nil : s ≠ []
  head : s.head? ≠ some '0'
  digits : ∀ c ∈ s, isAsciiDigit c

/-- Nought, or a magnitude with or without a minus sign. -/
inductive IsCanonical : List Char → Prop
  | zero : IsCanonical ['0']
  | positive {s : List Char} (h : IsMagnitude s) : IsCanonical s
  | negative {s : List Char} (h : IsMagnitude s) : IsCanonical ('-' :: s)

theorem head?_decimal {n : Nat} (h : n ≠ 0) : (decimal n).head? ≠ some '0' := by
  fun_induction decimal n with
  | case1 n hn =>
    have hall : ∀ n : Fin 10, n ≠ 0 → [digitChar n].head? ≠ some '0' := by decide
    exact hall ⟨n, hn⟩ fun hzero => h (congrArg Fin.val hzero)
  | case2 n hn ih =>
    have hne : decimal (n / 10) ≠ [] := (isAsciiDigit_decimal (n / 10)).1
    rw [List.head?_append_of_ne_nil _ hne]
    exact ih (by omega)

theorem isMagnitude_decimal {n : Nat} (h : n ≠ 0) : IsMagnitude (decimal n) :=
  ⟨(isAsciiDigit_decimal n).1, head?_decimal h, (isAsciiDigit_decimal n).2⟩

/-- A whole number is written in canonical form. -/
theorem isCanonical_decimalInt (n : Int) : IsCanonical (decimalInt n) := by
  cases n with
  | ofNat n =>
    cases n with
    | zero =>
      have hzero : decimalInt (.ofNat 0) = ['0'] := by decide +kernel
      rw [hzero]
      exact .zero
    | succ n => exact .positive (isMagnitude_decimal (Nat.succ_ne_zero n))
  | negSucc n => exact .negative (isMagnitude_decimal (Nat.succ_ne_zero n))

end Text

/-! ## Doubles -/

namespace Double

/-- A finite number of the format: at most 53 bits, at no greater exponent than there is. -/
def IsFinite : Double → Prop
  | .finite _ significand exponent => significand < Nat.pow 2 53 ∧ exponent ≤ maxExponent
  | _ => False

/-- A finite number has a whole part, and this can be written. -/
theorem IsFinite.exists_truncate? {x : Double} (h : x.IsFinite) :
    ∃ n, x.truncate? = some n ∧ Text.Integer.isWritable n := by
  cases x with
  | nan | infinite negative => exact absurd h id
  | finite negative significand exponent =>
    obtain ⟨hsignificand, hexponent⟩ := h
    have hlimit : Nat.pow 2 53 * scaleUp 2 maxExponent < Nat.pow 10 Text.Integer.digitLimit := by
      decide +kernel
    obtain ⟨n, hn⟩ : ∃ n, (finite negative significand exponent).truncate? = some n := ⟨_, rfl⟩
    refine ⟨n, hn, decide_eq_true (Nat.lt_of_le_of_lt ?_ hlimit)⟩
    rw [natAbs_of_truncate hn]
    exact Nat.le_trans (Nat.div_le_self _ _)
      (Nat.mul_le_mul (Nat.le_of_lt hsignificand) (scaleUp_le hexponent))

end Double

/-! ## Values -/

/-- Null, truth values, whole numbers that can be written, finite doubles, texts and dates. -/
def Value.IsDatable : Value → Prop
  | .float x => x.IsFinite
  | v => v.IsSimple

theorem Value.IsDatable.isWritable {v : Value} (h : v.IsDatable) : v.isWritable := by
  cases v with
  | float x => rfl
  | _ => exact IsSimple.isWritable h

theorem Value.IsDatable.timed {v : Value} (h : v.IsDatable) : v.Timed := by
  cases v with
  | float x => exact Double.IsFinite.exists_truncate? h
  | _ => exact IsSimple.timed h

namespace BooleanQuery

variable {field : String} {v : Value} {e : Failure} {t : Option Int}

/-- A value that may be a date has no timestamp only if it is a text that is neither a number
nor a date. -/
theorem timestamp_eq_error_iff_of_datable (hv : v.IsDatable) : timestamp field v = .error e ↔
    ∃ s, v = .text s ∧ Undated s.toList ∧
      e = .invalidDate field (String.ofList (Text.trim s.toList)) := by
  cases v with
  | float x =>
    have hdouble : ¬ ∃ s, Value.float x = .text s ∧ Undated s.toList ∧
        e = .invalidDate field (String.ofList (Text.trim s.toList)) := by
      rintro ⟨s, hs, -⟩
      cases hs
    refine iff_of_false (fun h => ?_) hdouble
    cases x with
    | nan | infinite negative => exact hv
    | finite negative significand exponent => cases h
  | _ => exact timestamp_eq_error_iff hv

theorem isBlankText_decimalInt (n : Int) : Text.isBlankText (Text.decimalInt n) = false := by
  obtain ⟨⟨c, hc, hblank⟩, -⟩ := solid_decimalInt n
  exact List.all_eq_false.2 ⟨c, List.mem_of_head? hc, by simp [hblank]⟩

/-- What is prepared of a date is the decimal text of its timestamp, or of nought if it has
none. -/
theorem prepare_date (ht : timestamp field v = .ok t) (h : ∀ n ∈ t, Text.Integer.isWritable n) :
    prepare field v .date = .ok (String.ofList (Text.decimalInt (t.getD 0))) := by
  unfold prepare
  rw [reduced, ht, Except.map, ok_bind]
  cases t with
  | none =>
    have hzero : String.ofList (Text.decimalInt 0) = "0" := by decide +kernel
    rw [Option.getD_none, hzero]
    rfl
  | some n =>
    have hwritable : (Value.int n).isWritable := (Value.isWritable_int n).trans (h n rfl)
    have htext : prepareText (.int n) = String.ofList (Text.decimalInt n) := by
      change (if Text.isBlankText (String.ofList (Text.decimalInt n)).toList then "0"
        else String.ofList (Text.decimalInt n)) = String.ofList (Text.decimalInt n)
      rw [String.toList_ofList, isBlankText_decimalInt]
      rfl
    rw [Option.elim_some, if_pos hwritable, htext]
    rfl

/-- The decimal text of a number is prepared as itself. -/
theorem prepare_decimalInt {n : Int} (h : Text.Integer.isWritable n) (field : String) :
    prepare field (.text (String.ofList (Text.decimalInt n))) .date =
      .ok (String.ofList (Text.decimalInt n)) :=
  prepare_date (timestamp_int n h) fun _ hm => Option.some.inj hm ▸ h

/-- What may be a date is refused as a date that is none, which happens only to a text that is
neither blank nor a number nor a date, or a canonical numeral is prepared of it. This numeral
is prepared as itself in any field. -/
theorem prepare_date_canonical (field : String) (hv : v.IsDatable) :
    (∃ s, v = .text s ∧ Undated s.toList ∧ prepare field v .date =
      .error (.invalidDate field (String.ofList (Text.trim s.toList)))) ∨
    ∃ r, prepare field v .date = .ok r ∧ Text.IsCanonical r.toList ∧
      ∀ field', prepare field' (.text r) .date = .ok r := by
  cases ht : timestamp field v with
  | error e =>
    obtain ⟨s, hs, hundated, rfl⟩ := (timestamp_eq_error_iff_of_datable hv).1 ht
    refine .inl ⟨s, hs, hundated, ?_⟩
    unfold prepare
    rw [reduced, ht]
    rfl
  | ok t =>
    have hwritable : ∀ n ∈ t, Text.Integer.isWritable n := by
      rintro n rfl
      exact isWritable_of_timestamp hv.isWritable hv.timed ht
    have hvalue : Text.Integer.isWritable (t.getD 0) := by
      cases t with
      | none => decide +kernel
      | some n => exact hwritable n rfl
    refine .inr ⟨_, prepare_date ht hwritable, ?_, prepare_decimalInt hvalue⟩
    rw [String.toList_ofList]
    exact Text.isCanonical_decimalInt _

/-- A number with blanks, an underscore, leading noughts and digits of another script. -/
theorem prepare_date_canonical_seven :
    (Value.text " -0_\u0660\u0667\u3000").IsDatable ∧
      prepare "day" (.text " -0_\u0660\u0667\u3000") .date = .ok "-7" ∧
      Text.IsCanonical "-7".toList ∧ prepare "night" (.text "-7") .date = .ok "-7" := by
  have hv : (Value.text " -0_\u0660\u0667\u3000").IsDatable := trivial
  have hseven : prepare "day" (.text " -0_\u0660\u0667\u3000") .date = .ok "-7" :=
    eq_ok_of_toOption (by decide +kernel)
  rcases prepare_date_canonical "day" hv with ⟨s, -, -, hs⟩ | ⟨r, hr, hcanonical, hagain⟩
  · rw [hseven] at hs
    cases hs
  · obtain rfl := Except.ok.inj (hseven.symm.trans hr)
    exact ⟨hv, hseven, hcanonical, hagain "night"⟩

end BooleanQuery

end FieldedSearch
