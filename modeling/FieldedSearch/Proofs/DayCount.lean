-- SUMMARY: The days of the calendar are numbered one after another, in the only way in which they can be.
import Mathlib.Algebra.Order.Group.Int
import FieldedSearch.Calendar.DateTime

/-!
# Counting days

The number of a day is computed from its year, month and day. It is the number of the day
before and one, which is all that counting days means: any count of days that does so and
begins with the first day of 1970 gives a date with a time its instant
(`instant_eq_of_counts`).
-/

namespace FieldedSearch

namespace Date

variable {d d' : Date} {year month day : Nat} {days : Date → Int}

/-- The day after a day. The last day of the year 9999 has none. -/
def next? (d : Date) : Option Date :=
  if d.day < daysInMonth d.year d.month then of? d.year d.month (d.day + 1)
  else if d.month < 12 then of? d.year (d.month + 1) 1
  else of? (d.year + 1) 1 1

/-- The days from the beginning of 1970 to a day. -/
def sinceEpoch (d : Date) : Int := (d.ordinal : Int) - epoch

/-- The first day of 1970. -/
def firstOf1970 : Date := ⟨1970, 1, 1, by decide⟩

/-- The first day of year 1. -/
def firstOfAll : Date := default

/-- The days are counted one by one, from the first day of 1970. -/
structure Counts (days : Date → Int) : Prop where
  first : days firstOf1970 = 0
  next : ∀ d, ∀ d' ∈ d.next?, days d' = days d + 1

theorem of?_eq_some_iff : of? year month day = some d ↔
    d.year = year ∧ d.month = month ∧ d.day = day := by
  obtain ⟨y, m, n, hvalid⟩ := d
  unfold of?
  split
  · next h =>
    simp only [Option.some.injEq, Date.mk.injEq]
    exact ⟨fun ⟨h₁, h₂, h₃⟩ => ⟨h₁.symm, h₂.symm, h₃.symm⟩,
      fun ⟨h₁, h₂, h₃⟩ => ⟨h₁.symm, h₂.symm, h₃.symm⟩⟩
  · next h =>
    refine ⟨nofun, ?_⟩
    rintro ⟨rfl, rfl, rfl⟩
    exact absurd hvalid h

/-! ## Years and months -/

theorem daysBeforeMonth_succ (year month : Nat) (h : 1 ≤ month) :
    daysBeforeMonth year (month + 1) = daysBeforeMonth year month + daysInMonth year month := by
  obtain ⟨m, rfl⟩ := Nat.exists_eq_add_of_le' h
  simp only [daysBeforeMonth, Nat.add_sub_cancel, List.range_succ, List.map_append,
    List.foldl_append, List.map_cons, List.map_nil, List.foldl_cons, List.foldl_nil]

theorem daysInMonth_december (year : Nat) : daysInMonth year 12 = 31 := rfl

/-- A year has 366 days if it is a leap year, else 365. -/
theorem daysBeforeMonth_december (year : Nat) :
    daysBeforeMonth year 12 + 31 = if isLeapYear year then 366 else 365 := by
  cases h : isLeapYear year <;> simp [daysBeforeMonth, daysInMonth, List.range_succ, h]

theorem isLeapYear_iff {year : Nat} :
    isLeapYear year ↔ 4 ∣ year ∧ (100 ∣ year → 400 ∣ year) := by
  simp only [isLeapYear, Bool.and_eq_true, Bool.or_eq_true, beq_iff_eq, bne_iff_ne, ne_eq,
    Nat.dvd_iff_mod_eq_zero, imp_iff_not_or]

theorem daysBeforeYear_succ (year : Nat) (h : 1 ≤ year) :
    daysBeforeYear (year + 1) = daysBeforeYear year + if isLeapYear year then 366 else 365 := by
  obtain ⟨y, rfl⟩ := Nat.exists_eq_add_of_le' h
  have hsmall : y / 100 ≤ y := Nat.div_le_self y 100
  have hcentury : 100 ∣ y + 1 → 4 ∣ y + 1 := Nat.dvd_trans (by decide)
  have hcycle : 400 ∣ y + 1 → 100 ∣ y + 1 := Nat.dvd_trans (by decide)
  simp only [daysBeforeYear, Nat.add_sub_cancel, isLeapYear_iff, Nat.succ_div]
  generalize y / 4 = fours, y / 100 = centuries, y / 400 = cycles at hsmall ⊢
  by_cases h4 : 4 ∣ y + 1
  · by_cases h100 : 100 ∣ y + 1
    · by_cases h400 : 400 ∣ y + 1
      · simp only [h4, h100, h400, if_true, imp_self, and_self]
        omega
      · simp only [h4, h100, h400, if_true, if_false, imp_false, not_true, and_false]
        omega
    · have h400 := mt hcycle h100
      simp only [h4, h100, h400, if_true, if_false, imp_self, and_self]
      omega
  · have h100 := mt hcentury h4
    have h400 := mt hcycle h100
    simp only [h4, h100, h400, if_false, false_and]
    omega

/-! ## One day after another -/

/-- A day has the number after that of the day before. -/
theorem ordinal_of_next? (h : d.next? = some d') : d'.ordinal = d.ordinal + 1 := by
  obtain ⟨hyear, -, hmonth, hmonth', -, hday⟩ := d.valid
  unfold next? at h
  split at h
  · obtain ⟨hy, hm, hd⟩ := of?_eq_some_iff.1 h
    simp only [ordinal, hy, hm, hd]
    omega
  · next hlast =>
    have hday : d.day = daysInMonth d.year d.month := Nat.le_antisymm hday (Nat.not_lt.1 hlast)
    split at h
    · obtain ⟨hy, hm, hd⟩ := of?_eq_some_iff.1 h
      simp only [ordinal, hy, hm, hd, hday, daysBeforeMonth_succ _ _ hmonth]
      omega
    · next hdecember =>
      have hmonth : d.month = 12 := by omega
      obtain ⟨hy, hm, hd⟩ := of?_eq_some_iff.1 h
      have hnext := daysBeforeYear_succ d.year hyear
      have hyear := daysBeforeMonth_december d.year
      have hjanuary : daysBeforeMonth (d.year + 1) 1 = 0 := rfl
      rw [hmonth, daysInMonth_december] at hday
      simp only [ordinal, hy, hm, hd, hday, hmonth]
      omega

theorem le_daysInMonth (year month : Nat) : 28 ≤ daysInMonth year month := by
  unfold daysInMonth
  split
  · split <;> decide
  · split <;> decide

/-- Every day but the first is the day after another. -/
theorem exists_next? (h : d ≠ firstOfAll) : ∃ p : Date, p.next? = some d := by
  obtain ⟨year, month, day, hvalid⟩ := d
  obtain ⟨hyear, hyear', hmonth, hmonth', hday, hday'⟩ := hvalid
  by_cases hsame : 1 < day
  · refine ⟨⟨year, month, day - 1, hyear, hyear', hmonth, hmonth', by omega, by omega⟩, ?_⟩
    have hlt : day - 1 < daysInMonth year month := by omega
    have hday'' : day = day - 1 + 1 := by omega
    exact (if_pos hlt).trans (of?_eq_some_iff.2 ⟨rfl, rfl, hday''⟩)
  obtain rfl : day = 1 := by omega
  by_cases hsame : 1 < month
  · have hdays := le_daysInMonth year (month - 1)
    refine ⟨⟨year, month - 1, daysInMonth year (month - 1), hyear, hyear', by omega, by omega,
      by omega, Nat.le_refl _⟩, ?_⟩
    have hlt : month - 1 < 12 := by omega
    have hmonth'' : month = month - 1 + 1 := by omega
    exact (if_neg (Nat.lt_irrefl _)).trans
      ((if_pos hlt).trans (of?_eq_some_iff.2 ⟨rfl, hmonth'', rfl⟩))
  obtain rfl : month = 1 := by omega
  have hsame : 1 < year := by
    by_contra hfirst
    obtain rfl : year = 1 := by omega
    exact h rfl
  have hyear'' : year = year - 1 + 1 := by omega
  refine ⟨⟨year - 1, 12, 31, by omega, by omega, by decide, by decide, by decide,
    Nat.le_of_eq (daysInMonth_december _).symm⟩, ?_⟩
  exact (if_neg (Nat.lt_irrefl 31)).trans
    ((if_neg (Nat.lt_irrefl 12)).trans (of?_eq_some_iff.2 ⟨hyear'', rfl, rfl⟩))

/-- Days are counted by their numbers. -/
theorem counts_sinceEpoch : Counts sinceEpoch where
  first := by decide
  next d d' h := by
    have hnext := ordinal_of_next? h
    simp only [sinceEpoch, hnext]
    omega

/-- There is no other way to count the days than by their numbers. -/
theorem Counts.eq (h : Counts days) (d : Date) : days d = d.sinceEpoch := by
  have hbase (d : Date) : days d - d.ordinal = days firstOfAll - firstOfAll.ordinal := by
    induction hn : d.ordinal using Nat.strongRecOn generalizing d with
    | ind n ih =>
      subst hn
      by_cases hfirst : d = firstOfAll
      · rw [hfirst]
      · obtain ⟨p, hp⟩ := exists_next? hfirst
        have hordinal := ordinal_of_next? hp
        have hprevious := ih p.ordinal (by omega) p rfl
        have hdays := h.next p d hp
        omega
  have hepoch := hbase firstOf1970
  have hordinal : firstOf1970.ordinal = epoch := by decide
  have hd := hbase d
  rw [h.first, hordinal] at hepoch
  unfold sinceEpoch
  omega

end Date

/-! ## Moments -/

namespace DateTime

variable {days : Date → Int}

/-- The microseconds from the beginning of 1970 in UTC, by a count of days. -/
def microseconds (days : Date → Int) (t : DateTime) : Int :=
  (((days t.date * 24 + t.clock.hour) * 60 + t.clock.minute) * 60 + t.clock.second) * 1000000 +
    t.clock.microsecond - t.offset.elim 0 Offset.microseconds

/-- By any count of days a date with a time has the same instant. -/
theorem instant_eq_of_counts (h : Date.Counts days) (t : DateTime) :
    t.instant = t.microseconds days := by
  simp only [instant, microseconds, Clock.sinceMidnight, h.eq, Date.sinceEpoch]
  omega

end DateTime

end FieldedSearch
