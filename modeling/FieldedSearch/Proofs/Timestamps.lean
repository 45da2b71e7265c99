-- SUMMARY: The numbers that texts and dates denote have few enough digits to be written.
import Mathlib.Data.List.Induction
import FieldedSearch.Proofs.CalendarText

/-!
# Numbers that can be written

A number that is read has no more digits than are allowed, so that it can be written again.
A timestamp goes through a double, which is off by less than the greatest power of two there
is, and this is far from what cannot be written.
-/

namespace FieldedSearch

/-! ## Numbers that are read -/

namespace Text

theorem digitValue?_lt {c : Char} {d : Nat} (h : digitValue? c = some d) : d < 10 := by
  obtain ⟨z, hz, rfl⟩ := Option.map_eq_some_iff.1 h
  have hrange := List.find?_some hz
  simp only [Bool.and_eq_true, decide_eq_true_eq] at hrange
  omega

namespace Integer

theorem digits?_lt {s : List Char} {ds : List Nat} (h : digits? s = some ds) : ∀ d ∈ ds, d < 10 := by
  fun_induction digits? s generalizing ds with
  | case1 => cases h
  | case2 c =>
    obtain ⟨d, hd, rfl⟩ := Option.map_eq_some_iff.1 h
    exact List.forall_mem_singleton.2 (digitValue?_lt hd)
  | case3 c rest ih | case4 c rest _ _ ih =>
    obtain ⟨d, hd, h⟩ := Option.bind_eq_some_iff.1 h
    obtain ⟨ds', hds, h⟩ := Option.bind_eq_some_iff.1 h
    obtain rfl := Option.some.inj h
    exact List.forall_mem_cons.2 ⟨digitValue?_lt hd, ih hds⟩

theorem ofDigits_lt {ds : List Nat} (h : ∀ d ∈ ds, d < 10) : ofDigits ds < Nat.pow 10 ds.length := by
  induction ds using List.reverseRecOn with
  | nil => decide
  | append_singleton ds d ih =>
    obtain ⟨hds, hd⟩ := List.forall_mem_append.1 h
    have hlt := ih hds
    have hd := hd d List.mem_cons_self
    rw [ofDigits_concat, List.length_append]
    change _ < Nat.pow 10 ds.length * 10
    omega

/-- Of a number that is read the magnitude is read behind the sign. -/
theorem exists_readUnsigned {s : List Char} {n : Int} (h : readSigned s = .ok n) :
    ∃ t, readUnsigned t = .ok n.natAbs := by
  have hmagnitude {t : List Char} {sign : Int → Int} (hsign : ∀ m, (sign m).natAbs = m.natAbs)
      (h : (do let m ← readUnsigned t; pure (m : Int)).map sign = .ok n) :
      readUnsigned t = .ok n.natAbs := by
    cases ht : readUnsigned t with
    | error e => rw [ht] at h; cases h
    | ok m =>
      rw [ht] at h
      obtain rfl := Except.ok.inj h
      exact congrArg Except.ok (hsign m).symm
  unfold readSigned at h
  split at h
  · exact ⟨_, hmagnitude Int.natAbs_neg h⟩
  · exact ⟨_, hmagnitude (fun _ => rfl) h⟩
  · exact ⟨_, hmagnitude (fun _ => rfl) h⟩

/-- A number that is read has no more digits than can be written. -/
theorem isWritable_of_read? {s : List Char} {n : Int} (h : read? s = some n) : isWritable n := by
  have hread : read s = .ok n := by
    unfold read? at h
    cases hread : read s with
    | error e => rw [hread] at h; cases h
    | ok m => rw [hread] at h; exact congrArg _ (Option.some.inj h)
  obtain ⟨t, h⟩ := exists_readUnsigned hread
  unfold readUnsigned readMagnitude at h
  split at h
  · cases h
  · next ds hds =>
    split at h
    · cases h
    · next hlength =>
      split at h
      · have hvalue : ofDigits ds = n.natAbs := Except.ok.inj h
        have hlt := ofDigits_lt (digits?_lt hds)
        have hle := Nat.not_lt.1 hlength
        unfold isWritable
        rw [← hvalue]
        generalize digitLimit = limit at hle ⊢
        exact decide_eq_true
          (Nat.lt_of_lt_of_le hlt (Nat.pow_le_pow_right (Nat.succ_pos 9) hle))
      · cases h

end Integer

end Text

/-! ## Doubles -/

namespace Double

theorem roundQuotient_le (num den : Nat) : roundQuotient num den ≤ num / den + 1 := by
  simp only [roundQuotient]
  split
  · omega
  · split
    · omega
    · split <;> omega

theorem scaleUp_le {e : Int} (h : e ≤ maxExponent) : scaleUp 2 e ≤ scaleUp 2 maxExponent := by
  have hle := Int.toNat_le_toNat h
  unfold scaleUp
  generalize maxExponent.toNat = k at hle ⊢
  exact Nat.pow_le_pow_right (Nat.succ_pos 1) hle

theorem scaleDown_pos (e : Int) : 0 < scaleDown 2 e := Nat.pow_pos (Nat.succ_pos 1)

/-- Scaling, rounding and scaling back exceeds the numerator by one unit at most. -/
theorem roundQuotient_scaled_le (num den : Nat) (e : Int) :
    roundQuotient (num * scaleDown 2 e) (den * scaleUp 2 e) * scaleUp 2 e / scaleDown 2 e ≤
      num + scaleUp 2 e := by
  have hround := roundQuotient_le (num * scaleDown 2 e) (den * scaleUp 2 e)
  have hdown := scaleDown_pos e
  generalize scaleUp 2 e = u at hround ⊢
  generalize scaleDown 2 e = d at hround hdown ⊢
  have hquotient : num * d / (den * u) * u ≤ num * d := by
    rw [← Nat.div_div_eq_div_mul]
    exact Nat.le_trans (Nat.div_mul_le_self _ u) (Nat.div_le_self _ den)
  calc roundQuotient (num * d) (den * u) * u / d
    _ ≤ (num * d / (den * u) + 1) * u / d :=
      Nat.div_le_div_right (Nat.mul_le_mul_right u hround)
    _ ≤ (num * d + u) / d := by
      rw [Nat.add_mul, Nat.one_mul]
      exact Nat.div_le_div_right (Nat.add_le_add_right hquotient u)
    _ = num + u / d := by rw [Nat.mul_comm, Nat.mul_add_div hdown]
    _ ≤ num + u := Nat.add_le_add_left (Nat.div_le_self u d) num

theorem natAbs_of_truncate {negative : Bool} {m : Nat} {e n : Int}
    (h : (finite negative m e).truncate? = some n) :
    n.natAbs = m * scaleUp 2 e / scaleDown 2 e := by
  obtain rfl := Option.some.inj h
  split
  · exact (Int.natAbs_neg _).trans (Int.natAbs_natCast _)
  · exact Int.natAbs_natCast _

/-- The whole part of a rounded quotient exceeds the numerator by no more than the greatest
power of two with a full significand. -/
theorem natAbs_truncate_le {negative : Bool} {num den : Nat} {n : Int}
    (h : (ofQuotient negative num den).truncate? = some n) :
    n.natAbs ≤ num + Nat.pow 2 52 * scaleUp 2 maxExponent := by
  unfold ofQuotient at h
  split at h
  · rw [natAbs_of_truncate h, Nat.zero_mul, Nat.zero_div]
    exact Nat.zero_le _
  · unfold assemble at h
    generalize quotientExponent num den = e at h
    simp only at h
    split at h
    · split at h
      · cases h
      · next hcarry he =>
        -- after a carry the significand is the least with 53 bits
        rw [natAbs_of_truncate h]
        refine Nat.le_trans (Nat.div_le_self _ _) (Nat.le_trans ?_ (Nat.le_add_left _ _))
        exact Nat.mul_le_mul_left _ (scaleUp_le (Int.not_lt.1 he))
    · split at h
      · cases h
      · next hcarry he =>
        rw [natAbs_of_truncate h]
        have hgreatest := scaleUp_le (Int.not_lt.1 he)
        generalize scaleUp 2 maxExponent = greatest at hgreatest ⊢
        refine Nat.le_trans (roundQuotient_scaled_le num den e) (Nat.add_le_add_left ?_ num)
        exact Nat.le_trans hgreatest (Nat.le_mul_of_pos_left greatest (by decide))

end Double

/-! ## Dates -/

theorem foldl_add_le {b : Nat} {xs : List Nat} (h : ∀ x ∈ xs, x ≤ b) (n : Nat) :
    xs.foldl (· + ·) n ≤ n + b * xs.length := by
  induction xs generalizing n with
  | nil => exact Nat.le_refl n
  | cons x xs ih =>
    obtain ⟨hx, hxs⟩ := List.forall_mem_cons.1 h
    have hrest := ih hxs (n + x)
    rw [List.foldl_cons, List.length_cons, Nat.mul_succ]
    omega

theorem Date.ordinal_lt (d : Date) : d.ordinal < 4000000 := by
  obtain ⟨-, hyear, -, hmonth, -, hday⟩ := d.valid
  have hdays := daysInMonth_le d.year d.month
  have hbefore : daysBeforeMonth d.year d.month ≤ 31 * (d.month - 1) := by
    have hle : ∀ x ∈ (List.range (d.month - 1)).map fun m => daysInMonth d.year (m + 1), x ≤ 31 := by
      intro x hx
      obtain ⟨m, -, rfl⟩ := List.mem_map.1 hx
      exact daysInMonth_le _ _
    have hsum := foldl_add_le hle 0
    rwa [Nat.zero_add, List.length_map, List.length_range] at hsum
  simp only [ordinal, daysBeforeYear]
  omega

theorem DateTime.natAbs_instant_lt (t : DateTime) : t.instant.natAbs < Nat.pow 10 18 := by
  have hordinal := t.date.ordinal_lt
  obtain ⟨hhour, hminute, hsecond, hmicrosecond⟩ := t.clock.valid
  have hoffset : (t.offset.elim 0 Offset.microseconds).natAbs < 86400000000 := by
    cases t.offset with
    | none => decide
    | some o => exact o.bounded
  have hpow : Nat.pow 10 18 = 1000000000000000000 := by decide
  simp only [instant, Clock.sinceMidnight, Date.epoch]
  omega

/-- Every timestamp has few enough digits to be written. -/
theorem DateTime.isWritable_timestamp (t : DateTime) : Text.Integer.isWritable t.timestamp := by
  have hlimit : Nat.pow 10 18 + Nat.pow 2 52 * Double.scaleUp 2 Double.maxExponent <
      Nat.pow 10 Text.Integer.digitLimit := by
    decide +kernel
  have hrounded : ∀ n ∈ t.seconds.truncate?,
      n.natAbs ≤ t.instant.natAbs + Nat.pow 2 52 * Double.scaleUp 2 Double.maxExponent :=
    fun n h => Double.natAbs_truncate_le h
  generalize Nat.pow 2 52 * Double.scaleUp 2 Double.maxExponent = slack at hlimit hrounded
  have hle : t.timestamp.natAbs ≤ t.instant.natAbs + slack := by
    unfold timestamp
    cases h : t.seconds.truncate? with
    | none => exact Nat.zero_le _
    | some n => exact hrounded n h
  exact decide_eq_true (Nat.lt_of_le_of_lt hle
    (Nat.lt_trans (Nat.add_lt_add_right t.natAbs_instant_lt _) hlimit))

end FieldedSearch
