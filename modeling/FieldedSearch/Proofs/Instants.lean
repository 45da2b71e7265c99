-- SUMMARY: The timestamp of a date follows its instant, exact to the second except far away from 1970.
import FieldedSearch.Proofs.DayCount
import FieldedSearch.Proofs.Restating
import FieldedSearch.Proofs.WholeParts

/-!
# Timestamps and instants

A timestamp is the number of whole seconds between the beginning of 1970 and an instant,
unless the instant is so close to the next second that its fraction is lost in the double that
it goes through (`DateTime.RoundsUp`). This happens only centuries away from 1970, and it
leaves timestamps in the order of their instants (`timestamp_le`), however these are given.
-/

namespace FieldedSearch

namespace DateTime

/-! ## Whole seconds -/

/-- Whether a number of microseconds becomes a whole number of seconds by rounding up: to the
next one at most half a unit of the last place of the double is missing. -/
def RoundsUp (microseconds : Nat) : Prop :=
  Nat.pow 2 (53 - (microseconds / 1000000).log2) * (1000000 - microseconds % 1000000) ≤ 1000000

instance (n : Nat) : Decidable (RoundsUp n) := inferInstanceAs (Decidable (_ ≤ _))

/-- The seconds that microseconds are taken for. -/
def wholeSeconds (microseconds : Nat) : Nat :=
  microseconds / 1000000 + if RoundsUp microseconds then 1 else 0

theorem le_wholeSeconds (n : Nat) : n / 1000000 ≤ wholeSeconds n := Nat.le_add_right _ _

/-- For some centuries around 1970 no fraction is rounded up. -/
theorem not_roundsUp_of_lt {n : Nat} (h : n < Nat.pow 2 34 * 1000000) : ¬ RoundsUp n := by
  have hlog : (n / 1000000).log2 ≤ 33 := by
    by_cases hzero : n / 1000000 = 0
    · rw [hzero]
      decide
    · have hseconds : n / 1000000 < 2 ^ 34 := (Nat.div_lt_iff_lt_mul (by decide)).2 h
      exact Nat.le_of_lt_succ ((Nat.log2_lt hzero).2 hseconds)
  have hpow : Nat.pow 2 20 ≤ Nat.pow 2 (53 - (n / 1000000).log2) :=
    Nat.pow_le_pow_right (Nat.succ_pos 1) (by omega)
  have hmissing : 1 ≤ 1000000 - n % 1000000 := by omega
  have hmul := Nat.mul_le_mul hpow hmissing
  exact Nat.not_le.2 (Nat.lt_of_lt_of_le (by decide) hmul)

theorem wholeSeconds_mono {m n : Nat} (h : m ≤ n) : wholeSeconds m ≤ wholeSeconds n := by
  rcases Nat.lt_or_eq_of_le (Nat.div_le_div_right (c := 1000000) h) with hlt | heq
  · unfold wholeSeconds
    split <;> omega
  · -- within a second what is missing becomes less
    have hround : RoundsUp m → RoundsUp n := fun hm => by
      unfold RoundsUp at hm ⊢
      rw [← heq]
      refine Nat.le_trans (Nat.mul_le_mul_left _ ?_) hm
      omega
    unfold wholeSeconds
    rw [heq]
    by_cases hm : RoundsUp m
    · rw [if_pos hm, if_pos (hround hm)]
    · rw [if_neg hm]
      exact Nat.le_add_right _ _

theorem wholeSeconds_lt {m n : Nat} (h : m + 2000000 ≤ n) : wholeSeconds m < wholeSeconds n := by
  have hdiv : m / 1000000 + 2 ≤ n / 1000000 := by omega
  unfold wholeSeconds
  split <;> omega

/-- The timestamp has the sign of the instant and its whole seconds. -/
theorem timestamp_eq (t : DateTime) :
    t.timestamp = if t.instant < 0 then -(wholeSeconds t.instant.natAbs : Int)
      else wholeSeconds t.instant.natAbs := by
  have hinstant : t.instant.natAbs < 1000000000000000000 := t.natAbs_instant_lt
  have hseconds : t.instant.natAbs / 1000000 < Nat.pow 2 52 := by
    have hpow : Nat.pow 2 52 = 4503599627370496 := by decide
    omega
  have htruncate := Double.truncate?_ofQuotient (t.instant < 0) (by decide) (by decide)
    hseconds rfl
  unfold timestamp seconds
  rw [htruncate, Option.getD_some]
  simp only [decide_eq_true_eq]
  rfl

/-- The timestamp is the instant without its fraction, or the next second away from 1970. -/
theorem timestamp_eq_tdiv (t : DateTime) :
    t.timestamp = t.instant.tdiv 1000000 +
      if RoundsUp t.instant.natAbs then t.instant.sign else 0 := by
  have htdiv (m : Nat) : (m : Int).tdiv 1000000 = (m / 1000000 : Nat) := rfl
  rw [timestamp_eq, wholeSeconds]
  rcases Int.lt_trichotomy t.instant 0 with hneg | hzero | hpos
  · obtain ⟨m, hm⟩ : ∃ m : Nat, t.instant = -(m : Int) := ⟨t.instant.natAbs, by omega⟩
    rw [Int.sign_eq_neg_one_of_neg hneg, if_pos hneg, hm, Int.natAbs_neg, Int.natAbs_natCast,
      Int.neg_tdiv, htdiv]
    split <;> omega
  · rw [hzero]
    decide
  · obtain ⟨m, hm⟩ : ∃ m : Nat, t.instant = m := ⟨t.instant.natAbs, by omega⟩
    rw [Int.sign_eq_one_of_pos hpos, if_neg (Int.not_lt.2 (Int.le_of_lt hpos)), hm,
      Int.natAbs_natCast, htdiv]
    split <;> omega

/-! ## Exact seconds -/

/-- By any count of days the timestamp of a date with a time is the exact number of whole
seconds, cut off towards the beginning of 1970, if and only if the fraction is not rounded up;
else it is one second further away. -/
theorem timestamp_exact_iff {days : Date → Int} (hdays : Date.Counts days) (field : String)
    (t : DateTime) :
    (BooleanQuery.timestamp field (.dateTime t) =
        .ok (some ((t.microseconds days).tdiv 1000000)) ↔
      ¬ RoundsUp (t.microseconds days).natAbs) ∧
    (RoundsUp (t.microseconds days).natAbs →
      BooleanQuery.timestamp field (.dateTime t) =
        .ok (some ((t.microseconds days).tdiv 1000000 + (t.microseconds days).sign))) ∧
    ((t.microseconds days).natAbs < Nat.pow 2 34 * 1000000 →
      ¬ RoundsUp (t.microseconds days).natAbs) := by
  have htimestamp := t.timestamp_eq_tdiv
  rw [instant_eq_of_counts hdays t] at htimestamp
  have hvalue : BooleanQuery.timestamp field (.dateTime t) = .ok (some t.timestamp) := rfl
  generalize t.microseconds days = i at htimestamp ⊢
  rw [hvalue, htimestamp]
  refine ⟨?_, fun hround => by rw [if_pos hround], not_roundsUp_of_lt⟩
  by_cases hround : RoundsUp i.natAbs
  · have hzero : i ≠ 0 := fun hzero => by
      rw [hzero] at hround
      exact absurd hround (by decide)
    have hsign := mt Int.sign_eq_zero_iff_zero.1 hzero
    refine iff_of_false (fun h => ?_) (not_not_intro hround)
    rw [if_pos hround] at h
    have hsame := Option.some.inj (Except.ok.inj h)
    omega
  · rw [if_neg hround, Int.add_zero]
    exact iff_of_true rfl hround

/-- The last microsecond of the calendar. -/
def endOfCalendar : DateTime :=
  ⟨⟨9999, 12, 31, by decide⟩, ⟨23, 59, 59, 999999, by decide⟩, none⟩

theorem timestamp_exact_iff_endOfCalendar :
    Date.Counts Date.sinceEpoch ∧
      BooleanQuery.timestamp "created" (.dateTime endOfCalendar) = .ok (some 253402300800) := by
  have hdays := Date.counts_sinceEpoch
  have hround : RoundsUp (endOfCalendar.microseconds Date.sinceEpoch).natAbs := by
    decide
  have hvalue : (endOfCalendar.microseconds Date.sinceEpoch).tdiv 1000000 +
      (endOfCalendar.microseconds Date.sinceEpoch).sign = 253402300800 := by
    decide
  obtain ⟨-, hnext, -⟩ := timestamp_exact_iff hdays "created" endOfCalendar
  refine ⟨hdays, ?_⟩
  rw [hnext hround, hvalue]

/-- At the last microsecond of the calendar the timestamp is that of the next second. -/
theorem not_exact_endOfCalendar :
    ¬ ∀ (days : Date → Int) (_ : Date.Counts days) (field : String) (t : DateTime),
      BooleanQuery.timestamp field (.dateTime t) =
        .ok (some ((t.microseconds days).tdiv 1000000)) := by
  intro h
  have hexact := h _ Date.counts_sinceEpoch "created" endOfCalendar
  have htimestamp : endOfCalendar.timestamp = 253402300800 := by decide +kernel
  have hvalue : (endOfCalendar.microseconds Date.sinceEpoch).tdiv 1000000 =
      253402300799 := by
    decide
  rw [hvalue] at hexact
  have hsame : endOfCalendar.timestamp = 253402300799 := Option.some.inj (Except.ok.inj hexact)
  rw [htimestamp] at hsame
  contradiction

/-! ## The order of timestamps -/

variable {s t : DateTime}

theorem timestamp_le (h : s.instant ≤ t.instant) : s.timestamp ≤ t.timestamp := by
  rw [timestamp_eq, timestamp_eq]
  by_cases hs : s.instant < 0
  · rw [if_pos hs]
    by_cases ht : t.instant < 0
    · have hmono : wholeSeconds t.instant.natAbs ≤ wholeSeconds s.instant.natAbs :=
        wholeSeconds_mono (by omega)
      rw [if_pos ht]
      omega
    · rw [if_neg ht]
      omega
  · have hmono : wholeSeconds s.instant.natAbs ≤ wholeSeconds t.instant.natAbs :=
      wholeSeconds_mono (by omega)
    rw [if_neg hs, if_neg (by omega)]
    omega

/-- Two seconds are enough to tell instants apart. -/
theorem timestamp_lt (h : s.instant + 2000000 ≤ t.instant) : s.timestamp < t.timestamp := by
  rw [timestamp_eq, timestamp_eq]
  by_cases hs : s.instant < 0
  · rw [if_pos hs]
    by_cases ht : t.instant < 0
    · have hlt : wholeSeconds t.instant.natAbs < wholeSeconds s.instant.natAbs :=
        wholeSeconds_lt (by omega)
      rw [if_pos ht]
      omega
    · -- one of the two is a second away from the beginning of 1970
      have hs' := le_wholeSeconds s.instant.natAbs
      have ht' := le_wholeSeconds t.instant.natAbs
      rw [if_neg ht]
      omega
  · have hlt : wholeSeconds s.instant.natAbs < wholeSeconds t.instant.natAbs :=
      wholeSeconds_lt (by omega)
    rw [if_neg hs, if_neg (by omega)]
    omega

end DateTime

/-- The values that are dates: as such, or as a text with a blank or the letter `T` before the
time. A text has no offset with seconds. -/
inductive Value.Denotes : Value → DateTime → Prop
  | date (d : Date) : Denotes (.date d) (.startOf d)
  | dateText (d : Date) : Denotes (.text (String.ofList d.write)) (.startOf d)
  | dateTime (t : DateTime) : Denotes (.dateTime t) t
  | dateTimeText (t : DateTime) (separator : Char) (hoffset : ∀ o ∈ t.offset, o.IsWholeMinutes)
      (hseparator : separator = ' ' ∨ separator = 'T') :
      Denotes (.text (String.ofList (t.write separator))) t

namespace BooleanQuery

/-- However a date is given, it has the timestamp of its instant. -/
theorem timestamp_of_denotes {v : Value} {t : DateTime} (h : v.Denotes t) (field : String) :
    timestamp field v = .ok (some t.timestamp) := by
  cases h with
  | date d => rfl
  | dateText d => exact timestamp_date d
  | dateTime => rfl
  | dateTimeText _ separator hoffset hseparator =>
    have hascii : separator.toNat < 128 := by
      rcases hseparator with rfl | rfl <;> decide
    have hnumber : Text.Integer.read? (t.write separator) = none := by
      unfold DateTime.write
      rw [List.append_assoc]
      exact read?_date_append t.date _
    exact timestamp_of_read (solid_dateTime t separator) hnumber
      (Iso8601.read?_dateTime hoffset hascii)

/-- However two dates are given, their timestamps are in the order of their instants: the same
for the same instant, and different if the instants are two seconds apart. -/
theorem timestamp_mono {days : Date → Int} (hdays : Date.Counts days) {v w : Value}
    {s t : DateTime} (hv : v.Denotes s) (hw : w.Denotes t) (field field' : String) :
    ∃ m n, timestamp field v = .ok (some m) ∧ timestamp field' w = .ok (some n) ∧
      (s.microseconds days ≤ t.microseconds days → m ≤ n) ∧
      (s.microseconds days = t.microseconds days → m = n) ∧
      (s.microseconds days + 2000000 ≤ t.microseconds days → m < n) := by
  refine ⟨s.timestamp, t.timestamp, timestamp_of_denotes hv field,
    timestamp_of_denotes hw field', ?_⟩
  rw [← DateTime.instant_eq_of_counts hdays, ← DateTime.instant_eq_of_counts hdays]
  refine ⟨DateTime.timestamp_le, fun h => Int.le_antisymm ?_ ?_, DateTime.timestamp_lt⟩
  · exact DateTime.timestamp_le (Int.le_of_eq h)
  · exact DateTime.timestamp_le (Int.le_of_eq h.symm)

/-- The instant of the evening of the leap day, on the next day and ahead of UTC. -/
def leapNight : DateTime :=
  ⟨⟨2020, 3, 1, by decide⟩, ⟨7, 30, 0, 500000, by decide⟩, some ⟨19800000000, by decide⟩⟩

theorem timestamp_mono_leapNight :
    Date.Counts Date.sinceEpoch ∧
      Value.Denotes (.dateTime Filter.leapEvening) Filter.leapEvening ∧
      Value.Denotes (.text "2020-03-01T07:30:00.500000+05:30") leapNight ∧
      ∃ m, timestamp "day" (.dateTime Filter.leapEvening) = .ok (some m) ∧
        timestamp "day" (.text "2020-03-01T07:30:00.500000+05:30") = .ok (some m) := by
  have hdays := Date.counts_sinceEpoch
  have hevening := Value.Denotes.dateTime Filter.leapEvening
  have hnight : Value.Denotes (.text "2020-03-01T07:30:00.500000+05:30") leapNight := by
    have hwrite : String.ofList (leapNight.write 'T') = "2020-03-01T07:30:00.500000+05:30" := by
      decide +kernel
    rw [← hwrite]
    exact .dateTimeText leapNight 'T' (by decide) (.inr rfl)
  have hsame : Filter.leapEvening.microseconds Date.sinceEpoch =
      leapNight.microseconds Date.sinceEpoch := by
    decide
  obtain ⟨m, n, hm, hn, -, hinstant, -⟩ := timestamp_mono hdays hevening hnight "day" "day"
  obtain rfl := hinstant hsame
  exact ⟨hdays, hevening, hnight, m, hm, hn⟩

end BooleanQuery

end FieldedSearch
