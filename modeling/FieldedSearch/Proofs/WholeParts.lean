-- SUMMARY: The whole part of a rounded quotient, when rounding carries it beyond the whole part of the quotient, and which whole numbers are too large for a double.
import FieldedSearch.Proofs.Timestamps

/-!
# Whole parts of rounded quotients

A quotient is rounded to a double before its fraction is cut off. Below `2 ^ 52` a double has
places behind the point, so that its whole part can differ from that of the quotient only by
being one greater: if the quotient is so close below a whole number that it is rounded to it
(`truncate?_ofQuotient`). A whole number is too large for a double if its significand would be
carried beyond the greatest exponent (`ofInt?_eq_none_iff`).
-/

namespace FieldedSearch.Double

variable {num den n d : Nat} {negative : Bool}

/-! ## Rounding to whole numbers -/

theorem le_roundQuotient (num den : Nat) : num / den ≤ roundQuotient num den := by
  simp only [roundQuotient]
  repeat' split
  all_goals omega

/-- Even numbers are reached by rounding from half a unit below them. -/
theorem le_roundQuotient_iff (hden : 0 < den) (hn : 2 ∣ n) :
    n ≤ roundQuotient num den ↔ 2 * (n * den) ≤ 2 * num + den := by
  have hnum : den * (num / den) + num % den = num := Nat.div_add_mod num den
  have hr : num % den < den := Nat.mod_lt num hden
  rcases Nat.lt_trichotomy n (num / den + 1) with hlt | rfl | hgt
  · have hround := le_roundQuotient num den
    have hle : n * den ≤ den * (num / den) := by
      rw [Nat.mul_comm n]
      exact Nat.mul_le_mul_left den (Nat.le_of_lt_succ hlt)
    exact iff_of_true (by omega) (by omega)
  · -- of the two numbers around the quotient this is the even one, so that a tie goes to it
    have hsucc : (num / den + 1) * den = den * (num / den) + den := by
      rw [Nat.mul_comm, Nat.mul_succ]
    rw [hsucc]
    simp only [roundQuotient]
    repeat' split
    all_goals omega
  · have hround := roundQuotient_le num den
    have hle : den * (num / den + 2) ≤ n * den := by
      rw [Nat.mul_comm n]
      exact Nat.mul_le_mul_left den hgt
    rw [Nat.mul_add] at hle
    exact iff_of_false (by omega) (by omega)

/-- How far the whole part of a rounded quotient is beyond the whole part of the quotient. -/
theorem add_le_roundQuotient_div_iff (num : Nat) (hden : 0 < den) (hd : 0 < d) (heven : 2 ∣ d)
    (k : Nat) : num / den + k ≤ roundQuotient (num * d) den / d ↔
      2 * d * (den * k) ≤ 2 * d * (num % den) + den := by
  have hnum : 2 * (num * d) = 2 * d * (den * (num / den)) + 2 * d * (num % den) := by
    rw [← Nat.mul_add, Nat.div_add_mod, Nat.mul_comm num, Nat.mul_assoc]
  have hsum : 2 * ((num / den + k) * d * den) =
      2 * d * (den * (num / den)) + 2 * d * (den * k) := by
    rw [← Nat.mul_add, ← Nat.mul_add, Nat.mul_comm _ d, Nat.mul_comm den, Nat.mul_assoc,
      Nat.mul_assoc]
  rw [Nat.le_div_iff_mul_le hd, le_roundQuotient_iff hden (Nat.dvd_mul_left_of_dvd heven _), hnum,
    hsum]
  omega

/-- A quotient rounded to `1 / d` has a greater whole part only if no more than half of that is
missing to the next whole number. -/
theorem roundQuotient_div (num : Nat) (hden : 0 < den) (hd : 0 < d) (heven : 2 ∣ d) :
    roundQuotient (num * d) den / d =
      num / den + if 2 * d * (den - num % den) ≤ den then 1 else 0 := by
  have hreach := add_le_roundQuotient_div_iff num hden hd heven
  have hr : num % den < den := Nat.mod_lt num hden
  have hzero := (hreach 0).2 (by omega)
  have hone := hreach 1
  have htwo : ¬ num / den + 2 ≤ roundQuotient (num * d) den / d := by
    rw [hreach 2]
    have hlt : 2 * d * (num % den) < 2 * d * den := Nat.mul_lt_mul_of_pos_left hr (by omega)
    have hle : den ≤ 2 * d * den := Nat.le_mul_of_pos_left den (by omega)
    have hdouble : 2 * d * (den * 2) = 2 * (2 * d * den) := by
      rw [← Nat.mul_assoc, Nat.mul_comm]
    omega
  have hmissing : 2 * d * (den - num % den) + 2 * d * (num % den) = 2 * d * (den * 1) := by
    rw [← Nat.mul_add, Nat.sub_add_cancel (Nat.le_of_lt hr), Nat.mul_one]
  split <;> omega

/-! ## The place that a quotient is rounded to -/

theorem scaleUp_natCast (base k : Nat) : scaleUp base k = Nat.pow base k := rfl

theorem scaleDown_natCast (base k : Nat) : scaleDown base k = 1 := by
  rw [scaleDown, Int.toNat_neg_natCast]
  rfl

theorem scaleUp_neg (base k : Nat) : scaleUp base (-k) = 1 := by
  rw [scaleUp, Int.toNat_neg_natCast]
  rfl

theorem scaleDown_neg (base k : Nat) : scaleDown base (-k) = Nat.pow base k := by
  rw [scaleDown, Int.neg_neg]
  rfl

/-- The highest bit of a quotient is that of its whole part. -/
theorem log2Quotient_of_le (hden : 0 < den) (h : den ≤ num) :
    log2Quotient num den = (num / den).log2 := by
  have hnum : 2 ^ num.log2 ≤ num := Nat.log2_self_le (by omega)
  have hnum' : num < 2 ^ (num.log2 + 1) := Nat.lt_log2_self
  have hden' : 2 ^ den.log2 ≤ den := Nat.log2_self_le (by omega)
  have hden'' : den < 2 ^ (den.log2 + 1) := Nat.lt_log2_self
  have hlog : den.log2 ≤ num.log2 :=
    Nat.le_of_lt_succ ((Nat.pow_lt_pow_iff_right (Nat.lt_succ_self 1)).1
      (Nat.lt_of_le_of_lt hden' (Nat.lt_of_le_of_lt h hnum')))
  obtain ⟨k, hk⟩ := Nat.exists_eq_add_of_le hlog
  have hl : (num.log2 : Int) - den.log2 = k := by omega
  have hquotient : num / den ≠ 0 := Nat.ne_of_gt (Nat.div_pos h hden)
  have hupper : num < den * 2 ^ (k + 1) := by
    refine Nat.lt_of_lt_of_le hnum' ?_
    rw [hk, Nat.add_assoc, Nat.pow_add]
    exact Nat.mul_le_mul_right _ hden'
  simp only [log2Quotient, hl, scaleUp_natCast, scaleDown_natCast, Nat.mul_one, Nat.pow_eq]
  split
  · next hlower =>
    refine congrArg Int.ofNat ((Nat.log2_eq_iff hquotient).2 ⟨?_, ?_⟩).symm
    · exact (Nat.le_div_iff_mul_le hden).2 (by rwa [Nat.mul_comm])
    · exact (Nat.div_lt_iff_lt_mul hden).2 (by rwa [Nat.mul_comm])
  · next hlower =>
    have hlower := Nat.not_le.1 hlower
    obtain ⟨j, rfl⟩ : ∃ j, k = j + 1 := Nat.exists_eq_succ_of_ne_zero fun hzero => by
      rw [hzero, Nat.pow_zero, Nat.mul_one] at hlower
      omega
    have hbelow : den * 2 ^ j ≤ num := by
      refine Nat.le_trans (Nat.le_of_lt (Nat.mul_lt_mul_of_pos_right hden'' (Nat.two_pow_pos j))) ?_
      rwa [← Nat.pow_add, Nat.add_right_comm, Nat.add_assoc, ← hk]
    have hlog : (num / den).log2 = j := (Nat.log2_eq_iff hquotient).2
      ⟨(Nat.le_div_iff_mul_le hden).2 (by rwa [Nat.mul_comm]),
        (Nat.div_lt_iff_lt_mul hden).2 (by rwa [Nat.mul_comm])⟩
    omega

theorem log2Quotient_of_lt (hnum : num ≠ 0) (h : num < den) : log2Quotient num den < 0 := by
  have hnum' : 2 ^ num.log2 ≤ num := Nat.log2_self_le hnum
  have hden : den < 2 ^ (den.log2 + 1) := Nat.lt_log2_self
  have hlog : num.log2 ≤ den.log2 :=
    Nat.le_of_lt_succ ((Nat.pow_lt_pow_iff_right (Nat.lt_succ_self 1)).1
      (Nat.lt_trans (Nat.lt_of_le_of_lt hnum' h) hden))
  simp only [log2Quotient]
  split
  · next hle =>
    have hne : (num.log2 : Int) - den.log2 ≠ 0 := fun hzero => by
      rw [hzero] at hle
      change den * 1 ≤ num * 1 at hle
      omega
    omega
  · omega

/-- Half a unit of the 53rd place, or of a later one, is less than any denominator so small. -/
theorem not_missing_le {m : Nat} (hm : 53 ≤ m) (hsmall : den < Nat.pow 2 53) (h : 0 < n) :
    ¬ Nat.pow 2 m * n ≤ den := by
  have hpow : Nat.pow 2 53 ≤ Nat.pow 2 m := Nat.pow_le_pow_right (Nat.succ_pos 1) hm
  have hmul : Nat.pow 2 m ≤ Nat.pow 2 m * n := Nat.le_mul_of_pos_right _ h
  omega

/-- A quotient below `2 ^ 52` is rounded at a place behind the point. -/
theorem exists_quotientExponent (hnum : num ≠ 0) (hden : 0 < den) (hsmall : den < Nat.pow 2 53)
    (h : num / den < Nat.pow 2 52) :
    ∃ k, quotientExponent num den = -((k + 1 : Nat) : Int) ∧
      (Nat.pow 2 (k + 2) * (den - num % den) ≤ den ↔
        Nat.pow 2 (53 - (num / den).log2) * (den - num % den) ≤ den) := by
  unfold quotientExponent minExponent
  by_cases hlt : num < den
  · have hlog := log2Quotient_of_lt hnum hlt
    obtain ⟨k, hk⟩ : ∃ k : Nat, max (log2Quotient num den - 52) (-1074) = -((k + 1 : Nat) : Int) :=
      ⟨(-max (log2Quotient num den - 52) (-1074)).toNat - 1, by omega⟩
    have hmissing : 0 < den - num % den := Nat.sub_pos_of_lt (Nat.mod_lt num hden)
    rw [Nat.div_eq_of_lt hlt]
    exact ⟨k, hk, iff_of_false (not_missing_le (by omega) hsmall hmissing)
      (not_missing_le (Nat.le_refl 53) hsmall hmissing)⟩
  · have hle := Nat.not_lt.1 hlt
    have hquotient : num / den ≠ 0 := Nat.ne_of_gt (Nat.div_pos hle hden)
    have hlog : (num / den).log2 < 52 := (Nat.log2_lt hquotient).2 h
    rw [log2Quotient_of_le hden hle]
    exact ⟨51 - (num / den).log2, by omega, by
      rw [show 51 - (num / den).log2 + 2 = 53 - (num / den).log2 by omega]⟩

/-! ## Cutting off the fraction -/

/-- Whether the significand is carried or not, the fraction is cut off at the same place. -/
theorem truncate?_assemble (significand k : Nat) :
    (assemble negative significand (-((k + 1 : Nat) : Int))).truncate? =
      some (if negative then -((significand / Nat.pow 2 (k + 1) : Nat) : Int)
        else (significand / Nat.pow 2 (k + 1) : Nat)) := by
  unfold assemble maxExponent
  by_cases hcarry : significand = Nat.pow 2 53
  · have hexponent : -((k + 1 : Nat) : Int) + 1 = -(k : Int) := by omega
    have hvalue : Nat.pow 2 52 / Nat.pow 2 k = significand / Nat.pow 2 (k + 1) := by
      rw [hcarry]
      exact (Nat.mul_div_mul_right (Nat.pow 2 52) (Nat.pow 2 k) (Nat.succ_pos 1)).symm
    simp only [hcarry, if_true, hexponent]
    rw [if_neg (by omega), truncate?, scaleUp_neg, scaleDown_neg, Nat.mul_one, hvalue, hcarry]
  · simp only [if_neg hcarry]
    rw [if_neg (by omega), truncate?, scaleUp_neg, scaleDown_neg, Nat.mul_one]

/-- The whole part of a rounded quotient is that of the quotient, or one more if at most half a
unit of the last place is missing to the next whole number. -/
theorem truncate?_ofQuotient (negative : Bool) (hden : 0 < den) (hsmall : den < Nat.pow 2 53)
    (h : num / den < Nat.pow 2 52)
    (hn : n = num / den +
      if Nat.pow 2 (53 - (num / den).log2) * (den - num % den) ≤ den then 1 else 0) :
    (ofQuotient negative num den).truncate? = some (if negative then -(n : Int) else n) := by
  unfold ofQuotient
  split
  · next hzero =>
    have hfalse : ¬ Nat.pow 2 53 * den ≤ den := not_missing_le (Nat.le_refl 53) hsmall hden
    rw [hzero, Nat.zero_div, Nat.zero_mod, Nat.log2_zero, Nat.sub_zero, Nat.sub_zero,
      if_neg hfalse] at hn
    simp only [hn, zero, truncate?, Nat.zero_mul, Nat.zero_div]
  · next hnum =>
    obtain ⟨k, hk, hmissing⟩ := exists_quotientExponent hnum hden hsmall h
    have hround := roundQuotient_div num (d := Nat.pow 2 (k + 1)) hden
      (Nat.pow_pos (Nat.succ_pos 1)) (Nat.dvd_mul_left 2 (Nat.pow 2 k))
    have hpow : 2 * Nat.pow 2 (k + 1) = Nat.pow 2 (k + 2) := (Nat.pow_succ' (m := 2)).symm
    simp only [hpow, hmissing, ← hn] at hround
    simp only [hk, truncate?_assemble, scaleUp_neg, scaleDown_neg, Nat.mul_one, hround]

/-! ## Numbers beyond the greatest double -/

end FieldedSearch.Double
