-- SUMMARY: Dates, times and offsets are read back from the texts that are written of them.
import FieldedSearch.Calendar.Iso8601
import FieldedSearch.Proofs.Numerals

/-!
# Dates and times read back

The texts that are written of dates and times are read as ISO 8601, octet by octet. Every
number in them takes a fixed number of digits (`Numeral`), so each reader finds its numbers
where they were written. An offset is read back if it is a whole number of minutes, which is
then all that is written of it.
-/

namespace FieldedSearch

/-- Whether an offset has no seconds. -/
def Offset.IsWholeMinutes (o : Offset) : Prop := 60000000 ∣ o.microseconds

instance (o : Offset) : Decidable o.IsWholeMinutes := inferInstanceAs (Decidable (_ ∣ _))

theorem daysInMonth_le (year month : Nat) : daysInMonth year month ≤ 31 := by
  unfold daysInMonth
  split
  · split <;> decide
  · split <;> decide

/-- The numbers of a date fit in the digits that there are for them. -/
theorem Date.lt_pow (d : Date) :
    d.year < Nat.pow 10 4 ∧ d.month < Nat.pow 10 2 ∧ d.day < Nat.pow 10 2 := by
  have hdays := daysInMonth_le d.year d.month
  obtain ⟨-, hyear, -, hmonth, -, hday⟩ := d.valid
  exact ⟨Nat.lt_succ_of_le hyear, Nat.lt_of_le_of_lt hmonth (by decide),
    Nat.lt_of_le_of_lt (Nat.le_trans hday hdays) (by decide)⟩

/-- The numbers of a time fit in the digits that there are for them. -/
theorem Clock.lt_pow (t : Clock) : t.hour < Nat.pow 10 2 ∧ t.minute < Nat.pow 10 2 ∧
    t.second < Nat.pow 10 2 ∧ t.microsecond < Nat.pow 10 6 := by
  obtain ⟨hhour, hminute, hsecond, hmicrosecond⟩ := t.valid
  exact ⟨Nat.lt_trans hhour (by decide), Nat.lt_trans hminute (by decide),
    Nat.lt_trans hsecond (by decide), hmicrosecond⟩

/-- The number of minutes of an offset without seconds. -/
theorem Offset.exists_minutes {o : Offset} (h : o.IsWholeMinutes) :
    ∃ k, k < 1440 ∧ o.microseconds.natAbs = 60000000 * k := by
  obtain ⟨k, hk⟩ := h
  have hbounded := o.bounded
  exact ⟨k.natAbs, by omega, by omega⟩

/-- Of an offset without seconds its sign, its hours and its minutes are written. -/
theorem Offset.write_of_minutes {o : Offset} {k : Nat} (hk : o.microseconds.natAbs = 60000000 * k) :
    o.write = (if o.microseconds < 0 then '-' else '+') ::
      (Text.padded 2 (k / 60) ++ ':' :: Text.padded 2 (k % 60)) := by
  have hseconds : 60000000 * k / 1000000 = 60 * k := by omega
  have hmicroseconds : 60000000 * k % 1000000 = 0 := by omega
  have hhours : 60 * k / 3600 = k / 60 := by omega
  have hminutes : 60 * k / 60 % 60 = k % 60 := by omega
  have hrest : 60 * k % 60 = 0 := by omega
  simp only [Offset.write, hk, hseconds, hmicroseconds, hhours, hminutes, hrest, writeMicrosecond,
    if_true, and_self, List.append_nil, List.cons_append]

namespace Iso8601

/-! ## Octets -/

theorem octets_append (s t : List Char) : octets (s ++ t) = octets s ++ octets t :=
  List.flatMap_append

theorem octets_cons {c : Char} (h : c.toNat < 128) (s : List Char) :
    octets (c :: s) = UInt8.ofNat c.toNat :: octets s := by
  have hc : String.utf8EncodeChar c = [UInt8.ofNat c.toNat] := if_pos (Nat.le_of_lt_succ h)
  unfold octets
  rw [List.flatMap_cons, hc]
  rfl

/-- The octets of a number with the given number of digits. -/
structure Numeral (width n : Nat) (s : List UInt8) : Prop where
  length : s.length = width
  digits : ∀ b ∈ s, isDigit b
  value : number s = n

theorem numeral_padded {width n : Nat} (hwidth : 0 < width) (h : n < Nat.pow 10 width) :
    Numeral width n (octets (Text.padded width n)) := by
  obtain ⟨ds, hlength, hds, hpadded, hvalue⟩ := Text.exists_digits_padded hwidth h
  have hoctets : octets (Text.padded width n) = ds.map fun d => UInt8.ofNat (48 + d) := by
    rw [hpadded]
    clear hlength hpadded hvalue
    induction ds with
    | nil => rfl
    | cons d ds ih =>
      obtain ⟨hd, hds⟩ := List.forall_mem_cons.1 hds
      have hnat := Text.toNat_digitChar hd
      rw [List.map_cons, octets_cons (by omega), ih hds, hnat]
      rfl
  have hnat {d : Nat} (hd : d < 10) : (UInt8.ofNat (48 + d)).toNat = 48 + d :=
    UInt8.toNat_ofNat_of_lt' (show 48 + d < 256 by omega)
  rw [hoctets]
  constructor
  case length => rw [List.length_map, hlength]
  case digits =>
    intro b hb
    obtain ⟨d, hd, rfl⟩ := List.mem_map.1 hb
    have hd := hds d hd
    simp only [isDigit, Bool.and_eq_true, decide_eq_true_eq, UInt8.le_iff_toNat_le, hnat hd]
    exact ⟨Nat.le_add_right _ _, Nat.add_le_add_left (Nat.le_of_lt_succ hd) 48⟩
  case value =>
    rw [← hvalue]
    unfold number Text.Integer.ofDigits
    rw [List.foldl_map]
    refine List.foldl_ext _ _ _ fun n d hd => ?_
    rw [hnat (hds d hd), Nat.add_sub_cancel_left]

theorem ne_of_isDigit {b c : UInt8} (hb : isDigit b) (hc : isDigit c = false) : b ≠ c := by
  rintro rfl
  rw [hb] at hc
  contradiction

namespace Numeral

variable {width n : Nat} {s : List UInt8}

theorem take? (h : Numeral width n s) (rest : List UInt8) :
    take? width (s ++ rest) = some (n, rest) := by
  have hdigits : s.all isDigit := List.all_eq_true.2 h.digits
  unfold Iso8601.take?
  rw [← h.length, List.take_left, List.drop_left]
  simp only [hdigits, h.value, and_self, if_true]

theorem exists_cons (h : Numeral (width + 1) n s) : ∃ b t, s = b :: t ∧ isDigit b := by
  obtain ⟨b, t, rfl⟩ := List.exists_cons_of_length_eq_add_one h.length
  exact ⟨b, t, rfl, h.digits b List.mem_cons_self⟩

end Numeral

/-! ## Dates -/

section Dates

variable {year month day : Nat} {y m d : List UInt8}

theorem readMonth?_numerals (hm : Numeral 2 month m) (hd : Numeral 2 day d) :
    readMonth? year true (m ++ hyphen :: d) = Date.of? year month day := by
  have hday := hd.take? []
  rw [List.append_nil] at hday
  simp [readMonth?, hm.take?, separator?, hday]

theorem readDate?_numerals (hy : Numeral 4 year y) (hm : Numeral 2 month m)
    (hd : Numeral 2 day d) :
    readDate? (y ++ hyphen :: m ++ hyphen :: d) = Date.of? year month day := by
  obtain ⟨b, t, rfl, hb⟩ := hm.exists_cons
  have hmonth : readMonth? year true (b :: t ++ hyphen :: d) = Date.of? year month day :=
    readMonth?_numerals hm hd
  have hweek : b ≠ weekMark := ne_of_isDigit hb (by decide)
  rw [List.append_assoc, List.cons_append]
  simpa [readDate?, hy.take?, hweek] using hmonth

/-- A date with hyphens has ten octets, whatever stands behind it. -/
theorem dateLength?_numerals (hy : Numeral 4 year y) (hm : Numeral 2 month m)
    (hd : Numeral 2 day d) (rest : List UInt8) :
    dateLength? (y ++ hyphen :: m ++ hyphen :: d ++ rest) = some 10 := by
  obtain ⟨b, t, rfl, hb⟩ := hm.exists_cons
  have hweek : b ≠ weekMark := ne_of_isDigit hb (by decide)
  have hlength : (y ++ hyphen :: (b :: t) ++ hyphen :: d ++ rest).length = 10 + rest.length := by
    have hm := hm.length
    simp only [List.length_append, List.length_cons, hy.length, hd.length] at hm ⊢
    omega
  have hfour : (y ++ hyphen :: (b :: t) ++ hyphen :: d ++ rest)[4]? = some hyphen := by
    simp [← hy.length]
  have hfive : (y ++ hyphen :: (b :: t) ++ hyphen :: d ++ rest)[5]? = some b := by
    have hy : y.length + 1 = 5 := by rw [hy.length]
    simp [← hy]
  unfold dateLength?
  simp only [hlength, hfour, hfive]
  rw [if_neg (by omega), if_neg (by omega), if_pos trivial, if_neg (by simpa using hweek)]

end Dates

/-- The octets of a date: its numbers with hyphens between them. -/
theorem exists_octets_date (d : Date) : ∃ year month day, Numeral 4 d.year year ∧
    Numeral 2 d.month month ∧ Numeral 2 d.day day ∧
    octets d.write = year ++ hyphen :: month ++ hyphen :: day := by
  obtain ⟨hyear, hmonth, hday⟩ := d.lt_pow
  refine ⟨_, _, _, numeral_padded (by decide) hyear, numeral_padded (by decide) hmonth,
    numeral_padded (by decide) hday, ?_⟩
  unfold Date.write
  rw [octets_append, octets_append, octets_cons (by decide), octets_cons (by decide)]
  rfl

/-- A date is found at the head of a text. -/
theorem readDate?_octets (d : Date) (rest : List UInt8) :
    dateLength? (octets d.write ++ rest) = some 10 ∧
      readDate? ((octets d.write ++ rest).take 10) = some d ∧
      (octets d.write ++ rest).drop 10 = rest := by
  obtain ⟨year, month, day, hyear, hmonth, hday, hoctets⟩ := exists_octets_date d
  have hlength : (octets d.write).length = 10 := by
    rw [hoctets]
    simp only [List.length_append, List.length_cons, hyear.length, hmonth.length, hday.length]
  refine ⟨?_, ?_, ?_⟩
  · rw [hoctets]
    exact dateLength?_numerals hyear hmonth hday rest
  · rw [← hlength, List.take_left, hoctets, readDate?_numerals hyear hmonth hday]
    exact dif_pos d.valid
  · rw [← hlength, List.drop_left]

/-! ## Times -/

section Times

variable {n : Nat} {s rest : List UInt8} {count : Nat} {colons : Option Bool}

theorem readNumbers?_last (h : Numeral 2 n s) :
    readNumbers? (count + 1) colons s = some ⟨[n], 0, false⟩ := by
  have htake := h.take? []
  rw [List.append_nil] at htake
  simp [readNumbers?, htake]

theorem readNumbers?_colon (h : Numeral 2 n s) (hrest : rest ≠ [])
    (hcolons : colons.getD true = true) :
    readNumbers? (count + 1) colons (s ++ colon :: rest) =
      (readNumbers? count (some true) rest).map fun r => { r with numbers := n :: r.numbers } := by
  obtain ⟨b, rest, rfl⟩ := List.exists_cons_of_ne_nil hrest
  simp only [readNumbers?, h.take?, Option.bind_eq_bind, Option.bind_some, decide_true, hcolons,
    Bool.and_self, if_true]
  exact (Option.map_eq_bind ..).symm

theorem readFraction?_numeral (h : Numeral 6 n s) : readFraction? s = some (n, false) := by
  have hdigits : s.all isDigit := List.all_eq_true.2 h.digits
  have htake : s.take 6 = s := List.take_of_length_le (Nat.le_of_eq h.length)
  have hdrop : s.drop 6 = [] := List.drop_eq_nil_of_le (Nat.le_of_eq h.length)
  simp [readFraction?, htake, hdrop, hdigits, h.value, h.length]

theorem readNumbers?_point {microsecond : Nat} {t : List UInt8} (h : Numeral 2 n s)
    (ht : Numeral 6 microsecond t) :
    readNumbers? (count + 1) (some true) (s ++ point :: t) = some ⟨[n], microsecond, false⟩ := by
  have hfraction := readFraction?_numeral ht
  obtain ⟨b, t, rfl, -⟩ := ht.exists_cons
  have hcolon : decide (point = colon) = false := by decide
  simp only [readNumbers?, h.take?, Option.bind_eq_bind, Option.bind_some, Option.getD_some, hcolon,
    Bool.and_false, hfraction, Option.map_some, decide_true, Bool.true_or, if_true]
  rfl

end Times

/-- The octets behind the seconds of a time. -/
theorem octets_writeMicrosecond {n : Nat} (h : n < Nat.pow 10 6) :
    n = 0 ∧ octets (writeMicrosecond n) = [] ∨
      ∃ s, Numeral 6 n s ∧ octets (writeMicrosecond n) = point :: s := by
  unfold writeMicrosecond
  split
  · next hn => exact .inl ⟨hn, rfl⟩
  · refine .inr ⟨_, numeral_padded (by decide) h, ?_⟩
    rw [octets_cons (by decide)]
    rfl

theorem isZoneMark_of_isDigit {b : UInt8} (h : isDigit b) : isZoneMark b = false := by
  simp [isZoneMark, ne_of_isDigit (c := plus) h (by decide),
    ne_of_isDigit (c := hyphen) h (by decide), ne_of_isDigit (c := zulu) h (by decide)]

/-- The octets of a time: its numbers with colons between them, and what is behind the
seconds. -/
theorem exists_octets_clock (t : Clock) : ∃ hour minute second, Numeral 2 t.hour hour ∧
    Numeral 2 t.minute minute ∧ Numeral 2 t.second second ∧
    octets t.write =
      hour ++ colon :: (minute ++ colon :: (second ++ octets (writeMicrosecond t.microsecond))) := by
  obtain ⟨hhour, hminute, hsecond, -⟩ := t.lt_pow
  refine ⟨_, _, _, numeral_padded (by decide) hhour, numeral_padded (by decide) hminute,
    numeral_padded (by decide) hsecond, ?_⟩
  unfold Clock.write
  rw [octets_append, octets_append, octets_append, octets_cons (by decide),
    octets_cons (by decide), List.append_assoc, List.append_assoc]
  rfl

/-- A time of day is read back. -/
theorem readClock?_octets (t : Clock) :
    readClock? (octets t.write) = some ⟨[t.hour, t.minute, t.second], t.microsecond, false⟩ := by
  obtain ⟨hour, minute, second, hhour, hminute, hsecond, hoctets⟩ := exists_octets_clock t
  have hne {s : List UInt8} {n : Nat} (h : Numeral 2 n s) (rest : List UInt8) : s ++ rest ≠ [] := by
    obtain ⟨b, t, rfl, -⟩ := h.exists_cons
    exact List.cons_ne_nil _ _
  have hlast : readNumbers? 1 (some true) (second ++ octets (writeMicrosecond t.microsecond)) =
      some ⟨[t.second], t.microsecond, false⟩ := by
    rcases octets_writeMicrosecond t.lt_pow.2.2.2 with ⟨hzero, hnil⟩ | ⟨s, hs, hpoint⟩
    · rw [hnil, hzero, List.append_nil]
      exact readNumbers?_last hsecond
    · rw [hpoint]
      exact readNumbers?_point hsecond hs
  unfold readClock?
  rw [hoctets, readNumbers?_colon hhour (hne hminute _) rfl,
    readNumbers?_colon hminute (hne hsecond _) rfl, hlast]
  rfl

theorem not_isZoneMark_of_mem_octets {t : Clock} {b : UInt8} (h : b ∈ octets t.write) :
    isZoneMark b = false := by
  obtain ⟨hour, minute, second, hhour, hminute, hsecond, hoctets⟩ := exists_octets_clock t
  have hmicrosecond : ∀ b ∈ octets (writeMicrosecond t.microsecond), isZoneMark b = false := by
    rcases octets_writeMicrosecond t.lt_pow.2.2.2 with ⟨-, hnil⟩ | ⟨s, hs, hpoint⟩
    · rw [hnil]
      exact fun _ hb => absurd hb List.not_mem_nil
    · rw [hpoint]
      exact List.forall_mem_cons.2 ⟨by decide, fun b hb => isZoneMark_of_isDigit (hs.digits b hb)⟩
  have hall : ∀ b ∈ octets t.write, isZoneMark b = false := by
    rw [hoctets]
    simp only [List.forall_mem_append, List.forall_mem_cons]
    exact ⟨fun b hb => isZoneMark_of_isDigit (hhour.digits b hb), by decide,
      fun b hb => isZoneMark_of_isDigit (hminute.digits b hb), by decide,
      fun b hb => isZoneMark_of_isDigit (hsecond.digits b hb), hmicrosecond⟩
  exact hall b h

/-! ## Offsets -/

/-- Hours and minutes that are read are the offset of as many minutes. -/
theorem offset?_of_minutes {o : Offset} {k : Nat} (hk : o.microseconds.natAbs = 60000000 * k) :
    (ClockReading.mk [k / 60, k % 60] 0 false).offset? (o.microseconds < 0) = some o := by
  have hseconds : k / 60 * 3600 + k % 60 * 60 + 0 = 60 * k := by omega
  have hsize : (if 60 * k = 0 then (0 : Int) else (60 * k * 1000000 + 0 : Nat)) =
      (60000000 * k : Nat) := by
    split <;> omega
  have hsigned : (if decide (o.microseconds < 0) = true then -((60000000 * k : Nat) : Int)
      else (60000000 * k : Nat)) = o.microseconds := by
    rw [← hk]
    split
    · next hneg => have := of_decide_eq_true hneg; omega
    · next hneg => have := of_decide_eq_false (Bool.eq_false_iff.2 hneg); omega
  simp only [ClockReading.offset?, List.getD_cons_zero, List.getD_cons_succ, List.getD_nil, hseconds,
    hsize, hsigned]
  exact dif_pos o.bounded

/-- An offset of whole minutes is read back, and its first octet marks a zone. -/
theorem readZone?_octets {o : Offset} (h : o.IsWholeMinutes) :
    ∃ b rest, octets o.write = b :: rest ∧ isZoneMark b ∧ readZone? (b :: rest) = some (some o) := by
  obtain ⟨k, hlt, hk⟩ := Offset.exists_minutes h
  have hhour : k / 60 < 24 := by omega
  have hhours : Numeral 2 (k / 60) (octets (Text.padded 2 (k / 60))) :=
    numeral_padded (by decide) (Nat.lt_trans hhour (by decide))
  have hminutes : Numeral 2 (k % 60) (octets (Text.padded 2 (k % 60))) :=
    numeral_padded (by decide) (Nat.lt_trans (Nat.mod_lt k (by decide)) (by decide))
  have hclock : readClock? (octets (Text.padded 2 (k / 60) ++ ':' :: Text.padded 2 (k % 60))) =
      some ⟨[k / 60, k % 60], 0, false⟩ := by
    obtain ⟨b, t, ht, -⟩ := hminutes.exists_cons
    unfold readClock?
    rw [octets_append, octets_cons (by decide)]
    refine (readNumbers?_colon hhours (by rw [ht]; exact List.cons_ne_nil _ _) rfl).trans ?_
    rw [readNumbers?_last hminutes]
    rfl
  have hoffset := offset?_of_minutes hk
  have hwrite := Offset.write_of_minutes hk
  by_cases hneg : o.microseconds < 0
  · rw [decide_eq_true hneg] at hoffset
    rw [if_pos hneg] at hwrite
    refine ⟨hyphen, _, by rw [hwrite, octets_cons (by decide)]; rfl, by decide, ?_⟩
    have hzulu : hyphen ≠ zulu := by decide
    simp [readZone?, hclock, hoffset, hzulu]
  · rw [decide_eq_false hneg] at hoffset
    rw [if_neg hneg] at hwrite
    refine ⟨plus, _, by rw [hwrite, octets_cons (by decide)]; rfl, by decide, ?_⟩
    have hzulu : plus ≠ zulu := by decide
    have hhyphen : plus ≠ hyphen := by decide
    simp [readZone?, hclock, hoffset, hzulu, hhyphen]

/-! ## Dates with times -/

/-- A time of day and an offset are read back, if the offset has no seconds. -/
theorem readTime?_octets (t : Clock) {offset : Option Offset}
    (h : ∀ o ∈ offset, o.IsWholeMinutes) :
    readTime? (octets (t.write ++ offset.elim [] Offset.write)) = some (t, offset) := by
  have hclock : ∀ b ∈ octets t.write, (!isZoneMark b) = true := fun b hb => by
    rw [not_isZoneMark_of_mem_octets hb]
    rfl
  have hzone : readZone? (octets (offset.elim [] Offset.write)) = some offset ∧
      (octets (offset.elim [] Offset.write)).takeWhile (!isZoneMark ·) = [] ∧
      (octets (offset.elim [] Offset.write)).dropWhile (!isZoneMark ·) =
        octets (offset.elim [] Offset.write) := by
    cases offset with
    | none => exact ⟨rfl, rfl, rfl⟩
    | some o =>
      obtain ⟨b, rest, hoctets, hmark, hread⟩ := readZone?_octets (h o rfl)
      have hmark : ¬ (!isZoneMark b) = true := by simp [hmark]
      rw [Option.elim_some, hoctets]
      exact ⟨hread, List.takeWhile_cons_of_neg hmark, List.dropWhile_cons_of_neg hmark⟩
  obtain ⟨hread, htake, hdrop⟩ := hzone
  have hvalid : Clock.of? t.hour t.minute t.second t.microsecond = some t := dif_pos t.valid
  unfold readTime?
  rw [octets_append, List.takeWhile_append_of_pos hclock, List.dropWhile_append_of_pos hclock, htake,
    hdrop, List.append_nil, readClock?_octets]
  simp [hread, hvalid]

/-- A date is read back as its beginning. -/
theorem read?_date (d : Date) : read? d.write = some (.startOf d) := by
  obtain ⟨hlength, hdate, hrest⟩ := readDate?_octets d []
  rw [List.append_nil] at hlength hdate hrest
  simp [read?, hlength, hdate, hrest]

/-- A date with a time is read back, if its offset has no seconds, whatever ASCII character
stands between the two. -/
theorem read?_dateTime {t : DateTime} (h : ∀ o ∈ t.offset, o.IsWholeMinutes) {separator : Char}
    (hseparator : separator.toNat < 128) : read? (t.write separator) = some t := by
  have htime := readTime?_octets t.clock h
  have hoctets : octets (t.write separator) = octets t.date.write ++
      UInt8.ofNat separator.toNat ::
        octets (t.clock.write ++ t.offset.elim [] Offset.write) := by
    unfold DateTime.write
    rw [List.append_assoc, octets_append, List.cons_append, octets_cons hseparator]
  have hcharacter : characterLength (UInt8.ofNat separator.toNat) = 1 := by
    have hnat : (UInt8.ofNat separator.toNat).toNat = separator.toNat :=
      UInt8.toNat_ofNat_of_lt' (Nat.lt_trans hseparator (by decide))
    refine if_pos ?_
    rw [UInt8.lt_iff_toNat_lt, hnat]
    exact hseparator
  have hne : octets (t.clock.write ++ t.offset.elim [] Offset.write) ≠ [] := by
    obtain ⟨hour, minute, second, hhour, -, -, hclock⟩ := exists_octets_clock t.clock
    obtain ⟨b, rest, rfl, -⟩ := hhour.exists_cons
    rw [octets_append, hclock]
    exact List.cons_ne_nil _ _
  obtain ⟨hlength, hdate, hrest⟩ := readDate?_octets t.date
    (UInt8.ofNat separator.toNat :: octets (t.clock.write ++ t.offset.elim [] Offset.write))
  unfold read?
  rw [hoctets]
  simp [hlength, hdate, hrest, hcharacter, hne, htime]

end Iso8601

end FieldedSearch
