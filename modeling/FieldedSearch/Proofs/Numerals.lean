-- SUMMARY: The text of a whole number is read back as the number.
import Mathlib.Data.List.Basic
import FieldedSearch.Text.Integer

/-!
# Numerals

The decimal text of a number consists of digits that denote it, with or without noughts in
front. Reading it as a whole number gives the number back, if it has few enough digits; a
number with a hyphen behind it is read as none.
-/

namespace FieldedSearch.Text

/-! ## Digits -/

variable {n : Nat} {ds : List Nat}

theorem toNat_of_isAsciiDigit {c : Char} (h : isAsciiDigit c) : 48 ≤ c.toNat ∧ c.toNat ≤ 57 := by
  simp only [isAsciiDigit, Bool.and_eq_true, decide_eq_true_eq, Char.le_def,
    UInt32.le_iff_toNat_le] at h
  exact h

theorem isBlank_of_isAsciiDigit {c : Char} (h : isAsciiDigit c) : isBlank c = false := by
  have hn := toNat_of_isAsciiDigit h
  simp only [isBlank, Bool.or_eq_false_iff, Bool.and_eq_false_iff, decide_eq_false_iff_not,
    beq_eq_false_iff_ne]
  omega

theorem isAsciiDigit_digitChar (h : n < 10) : isAsciiDigit (digitChar n) := by
  have hall : ∀ n : Fin 10, isAsciiDigit (digitChar n) := by decide
  exact hall ⟨n, h⟩

theorem toNat_digitChar (h : n < 10) : (digitChar n).toNat = 48 + n := by
  have hall : ∀ n : Fin 10, (digitChar n).toNat = 48 + n := by decide
  exact hall ⟨n, h⟩

theorem digitValue?_digitChar (h : n < 10) : digitValue? (digitChar n) = some n := by
  have hall : ∀ n : Fin 10, digitValue? (digitChar n) = some n.val := by decide
  exact hall ⟨n, h⟩

open Integer

theorem ofDigits_concat (ds : List Nat) (d : Nat) : ofDigits (ds ++ [d]) = 10 * ofDigits ds + d :=
  List.foldl_append

/-- The text of a number consists of the digits that denote it, and of no more than a power
of ten above it has noughts. -/
theorem exists_digits (n : Nat) : ∃ ds, ds ≠ [] ∧ (∀ d ∈ ds, d < 10) ∧
    decimal n = ds.map digitChar ∧ ofDigits ds = n ∧
      ∀ k, 0 < k → n < Nat.pow 10 k → ds.length ≤ k := by
  fun_induction decimal n with
  | case1 n h =>
    exact ⟨[n], List.cons_ne_nil _ _, List.forall_mem_singleton.2 h, rfl, by simp [ofDigits],
      fun k hk _ => hk⟩
  | case2 n h ih =>
    obtain ⟨ds, hne, hds, hdecimal, hvalue, hlength⟩ := ih
    refine ⟨ds ++ [n % 10], by simp, ?_, ?_, ?_, ?_⟩
    · exact List.forall_mem_append.2
        ⟨hds, List.forall_mem_singleton.2 (Nat.mod_lt n (by decide))⟩
    · rw [List.map_append, hdecimal]
      rfl
    · rw [ofDigits_concat, hvalue]
      exact Nat.div_add_mod n 10
    · intro k hk hn
      cases k with
      | zero => exact absurd hk (Nat.lt_irrefl 0)
      | succ k =>
        change n < Nat.pow 10 k * 10 at hn
        have hdiv : n / 10 < Nat.pow 10 k := Nat.div_lt_of_lt_mul (by rwa [Nat.mul_comm] at hn)
        have hk : k ≠ 0 := by
          rintro rfl
          exact h hn
        rw [List.length_append]
        exact Nat.succ_le_succ (hlength k (Nat.pos_of_ne_zero hk) hdiv)

theorem isAsciiDigit_decimal (n : Nat) : decimal n ≠ [] ∧ ∀ c ∈ decimal n, isAsciiDigit c := by
  obtain ⟨ds, hne, hds, hdecimal, -⟩ := exists_digits n
  rw [hdecimal]
  refine ⟨fun h => hne (List.map_eq_nil_iff.1 h), fun c hc => ?_⟩
  obtain ⟨d, hd, rfl⟩ := List.mem_map.1 hc
  exact isAsciiDigit_digitChar (hds d hd)

theorem ofDigits_replicate_append (k : Nat) (ds : List Nat) :
    ofDigits (List.replicate k 0 ++ ds) = ofDigits ds := by
  induction k with
  | zero => rfl
  | succ k ih => rw [List.replicate_succ, List.cons_append, ← ih]; rfl

/-- Of a number that has no more digits than there is room for, exactly this room is filled. -/
theorem exists_digits_padded {width : Nat} (hwidth : 0 < width) (h : n < Nat.pow 10 width) :
    ∃ ds, ds.length = width ∧ (∀ d ∈ ds, d < 10) ∧ padded width n = ds.map digitChar ∧
      ofDigits ds = n := by
  obtain ⟨ds, -, hds, hdecimal, hvalue, hlength⟩ := exists_digits n
  have hle := hlength width hwidth h
  refine ⟨List.replicate (width - ds.length) 0 ++ ds, ?_, ?_, ?_, ?_⟩
  · rw [List.length_append, List.length_replicate]
    omega
  · refine List.forall_mem_append.2 ⟨fun d hd => ?_, hds⟩
    rw [List.eq_of_mem_replicate hd]
    decide
  · rw [padded, hdecimal, List.map_append, List.map_replicate, List.length_map]
    rfl
  · rw [ofDigits_replicate_append, hvalue]

/-! ## Reading -/

namespace Integer

theorem digitChar_ne {c : Char} (h : n < 10) (hc : isAsciiDigit c = false) : digitChar n ≠ c := by
  rintro rfl
  rw [isAsciiDigit_digitChar h] at hc
  contradiction

theorem digits?_map_digitChar (hne : ds ≠ []) (h : ∀ d ∈ ds, d < 10) :
    digits? (ds.map digitChar) = some ds := by
  induction ds with
  | nil => exact absurd rfl hne
  | cons d ds ih =>
    obtain ⟨hd, hds⟩ := List.forall_mem_cons.1 h
    cases ds with
    | nil => simp [digits?, digitValue?_digitChar hd]
    | cons e ds =>
      have he : digitChar e ≠ '_' := digitChar_ne (hds e List.mem_cons_self) (by decide)
      have hrest := ih (List.cons_ne_nil e ds) hds
      rw [List.map_cons] at hrest ⊢
      rw [List.map_cons, digits?.eq_4 _ _ (by simp) (by simp [he]), digitValue?_digitChar hd, hrest]
      rfl

theorem isRunCharacter_digitChar (h : n < 10) : isRunCharacter (digitChar n) := by
  simp [isRunCharacter, digitValue?_digitChar h]

/-- Digits with nothing behind them that could belong to them are read together. -/
theorem readUnsigned_append {rest : List Char} (hne : ds ≠ []) (h : ∀ d ∈ ds, d < 10)
    (hlength : ds.length ≤ digitLimit) (hrest : rest.head?.all (!isRunCharacter ·)) :
    readUnsigned (ds.map digitChar ++ rest) =
      if rest.all isMargin then .ok (ofDigits ds) else .error .malformed := by
  have hrun : ∀ c ∈ ds.map digitChar, isRunCharacter c := by
    intro c hc
    obtain ⟨d, hd, rfl⟩ := List.mem_map.1 hc
    exact isRunCharacter_digitChar (h d hd)
  have hstop : rest.takeWhile isRunCharacter = [] ∧ rest.dropWhile isRunCharacter = rest := by
    cases rest with
    | nil => exact ⟨rfl, rfl⟩
    | cons c rest =>
      have hc : ¬ isRunCharacter c := by simpa using hrest
      exact ⟨List.takeWhile_cons_of_neg hc, List.dropWhile_cons_of_neg hc⟩
  unfold readUnsigned readMagnitude
  rw [List.takeWhile_append_of_pos hrun, List.dropWhile_append_of_pos hrun, hstop.1, hstop.2,
    List.append_nil, digits?_map_digitChar hne h]
  exact if_neg (Nat.not_lt.2 hlength)

/-- Digits have no margin and no sign in front of them. -/
theorem read_append {rest : List Char} (hne : ds ≠ []) (h : ∀ d ∈ ds, d < 10) :
    read (ds.map digitChar ++ rest) =
      (readUnsigned (ds.map digitChar ++ rest)).map fun n : Nat => (n : Int) := by
  obtain ⟨d, ds, rfl⟩ := List.exists_cons_of_ne_nil hne
  have hd := h d List.mem_cons_self
  have hmargin : isMargin (digitChar d) = false := by
    have hall : ∀ d : Fin 10, isMargin (digitChar d) = false := by decide
    exact hall ⟨d, hd⟩
  have hminus : digitChar d ≠ '-' := digitChar_ne hd (by decide)
  have hplus : digitChar d ≠ '+' := digitChar_ne hd (by decide)
  unfold read
  rw [List.map_cons, List.cons_append, List.dropWhile_cons_of_neg (by simp [hmargin])]
  rw [readSigned.eq_3 (digitChar d :: (ds.map digitChar ++ rest)) (by simp [hminus])
    (by simp [hplus])]
  cases readUnsigned (digitChar d :: (ds.map digitChar ++ rest)) <;> rfl

/-- What is written of a number is read back, unless it has too many digits. -/
theorem read?_decimalInt {n : Int} (h : isWritable n) : read? (decimalInt n) = some n := by
  have hlt : n.natAbs < Nat.pow 10 digitLimit := of_decide_eq_true h
  obtain ⟨ds, hne, hds, hdecimal, hvalue, hlength⟩ := exists_digits n.natAbs
  have hlimit : ds.length ≤ digitLimit := hlength digitLimit (by decide) hlt
  have hread := readUnsigned_append hne hds hlimit (rfl : ([] : List Char).head?.all _ = true)
  rw [if_pos (List.all_nil), hvalue, List.append_nil] at hread
  unfold read?
  cases n with
  | ofNat n =>
    have hunsigned : read (ds.map digitChar ++ []) =
        (readUnsigned (ds.map digitChar ++ [])).map fun n : Nat => (n : Int) :=
      read_append hne hds
    rw [List.append_nil, hread] at hunsigned
    have hdecimal : decimal n = ds.map digitChar := hdecimal
    rw [decimalInt, hdecimal, hunsigned]
    rfl
  | negSucc n =>
    have hsign : read ('-' :: decimal (n + 1)) =
        (readUnsigned (decimal (n + 1))).map fun n : Nat => -(n : Int) := by
      unfold read
      rw [List.dropWhile_cons_of_neg (by decide), readSigned.eq_1]
      cases readUnsigned (decimal (n + 1)) <;> rfl
    have hdecimal : decimal (n + 1) = ds.map digitChar := hdecimal
    rw [decimalInt, hsign, hdecimal, hread]
    rfl

/-- Digits with a hyphen behind them are no number. -/
theorem read?_hyphen (hne : ds ≠ []) (h : ∀ d ∈ ds, d < 10) (hlength : ds.length ≤ digitLimit)
    (rest : List Char) : read? (ds.map digitChar ++ '-' :: rest) = none := by
  have hhyphen : isRunCharacter '-' = false := by decide
  unfold read?
  rw [read_append hne h, readUnsigned_append hne h hlength (by simp [hhyphen])]
  rfl

end Integer

end FieldedSearch.Text
