-- SUMMARY: A filter that is read back is translated as the filter that was written.
import FieldedSearch.Proofs.Figures
import FieldedSearch.Proofs.Timestamps
import FieldedSearch.Proofs.Translating

/-!
# Translating what is read back

Of a filter that is read back the values are texts, and null. In a query such a text says
what the value says that it was written of: whole numbers, dates and dates with times are
read again where a field needs them, and elsewhere only their text counts. So both filters
have the same request, or fail with the same failure.
-/

namespace FieldedSearch

open Query

/-! ## Values -/

/-- A text that begins with a date is no whole number. -/
theorem read?_date_append (d : Date) (rest : List Char) :
    Text.Integer.read? (d.write ++ rest) = none := by
  obtain ⟨ds, hlength, hds, hpadded, -⟩ := Text.exists_digits_padded (by decide) d.lt_pow.1
  have hne : ds ≠ [] := List.ne_nil_of_length_pos (by rw [hlength]; decide)
  have hlimit : ds.length ≤ Text.Integer.digitLimit := by rw [hlength]; decide
  unfold Date.write
  rw [hpadded, List.append_assoc, List.append_assoc, List.cons_append]
  exact Text.Integer.read?_hyphen hne hds hlimit _

/-- The values whose texts say the same in a field of a type: with a text for a date come all
but true, which counts as no date, and dates with times whose offset has seconds. -/
def Value.Restates (type : ValueType) : Value → Prop
  | .null | .int _ | .text _ | .date _ => True
  | .bool b => type = .date → b = false
  | .dateTime t => ∀ o ∈ t.offset, o.IsWholeMinutes
  | .float _ | .time _ | .list _ | .map _ => False

instance (type : ValueType) : (v : Value) → Decidable (v.Restates type)
  | .null | .int _ | .text _ | .date _ => inferInstanceAs (Decidable True)
  | .bool b => inferInstanceAs (Decidable (type = .date → b = false))
  | .dateTime t => inferInstanceAs (Decidable (∀ o ∈ t.offset, o.IsWholeMinutes))
  | .float _ | .time _ | .list _ | .map _ => inferInstanceAs (Decidable False)

/-- A double with a timestamp has a whole part that can be written; any other value has a
timestamp unless its text has none. -/
def Value.Timed : Value → Prop
  | .float x => ∃ n, x.truncate? = some n ∧ Text.Integer.isWritable n
  | _ => True

theorem Value.Restates.timed {v : Value} (h : v.Restates .date) : v.Timed := by
  cases v with
  | float x => exact absurd h id
  | _ => trivial

namespace BooleanQuery

variable {field : String} {v : Value} {type : ValueType}

theorem timestamp_text (s : String) : timestamp field (.text s) = textTimestamp field s.toList := by
  rw [timestamp.eq_def]
  exact if_pos rfl

theorem timestamp_int (n : Int) (h : Text.Integer.isWritable n) :
    timestamp field (.text (Value.int n).display) = .ok (some n) := by
  have hsolid := solid_decimalInt n
  have hread := Text.Integer.read?_decimalInt h
  have hdisplay : (Value.int n).display.toList = Text.decimalInt n := String.toList_ofList
  rw [timestamp_text, hdisplay]
  simp only [textTimestamp, trim_solid hsolid, if_neg hsolid.ne_nil, hread]

/-- A text that is read as a date and as no number has the timestamp of the date. -/
theorem timestamp_of_read {s : List Char} {t : DateTime} (hs : Solid s)
    (hnumber : Text.Integer.read? s = none) (ht : Iso8601.read? s = some t) :
    timestamp field (.text (String.ofList s)) = .ok (some t.timestamp) := by
  rw [timestamp_text, String.toList_ofList]
  simp only [textTimestamp, trim_solid hs, if_neg hs.ne_nil, hnumber, ht]

theorem timestamp_date (d : Date) :
    timestamp field (.text (Value.date d).display) = timestamp field (.date d) := by
  have hnumber := read?_date_append d []
  rw [List.append_nil] at hnumber
  exact timestamp_of_read (solid_date d) hnumber (Iso8601.read?_date d)

theorem timestamp_dateTime {t : DateTime} (h : ∀ o ∈ t.offset, o.IsWholeMinutes) :
    timestamp field (.text (Value.dateTime t).display) = timestamp field (.dateTime t) := by
  have hnumber : Text.Integer.read? (t.write ' ') = none := by
    unfold DateTime.write
    rw [List.append_assoc]
    exact read?_date_append t.date _
  exact timestamp_of_read (solid_dateTime t ' ') hnumber (Iso8601.read?_dateTime h (by decide))

/-- The text of a value is prepared as the value, if it has the same timestamp where the type
asks for one. -/
theorem prepare_display (hwritable : v.isWritable)
    (htext : prepareText (.text v.display) = prepareText v)
    (htimestamp : type = .date →
      timestamp field (.text v.display) = timestamp field v) :
    prepare field (.text v.display) type = prepare field v type := by
  have hdisplay : (Value.text v.display).isWritable = true := rfl
  unfold prepare
  cases type with
  | date => rw [reduced, reduced, htimestamp rfl]
  | text | numeric =>
    rw [reduced, reduced, ok_bind, ok_bind, if_pos hwritable, if_pos hdisplay, htext] <;>
      exact ValueType.noConfusion

/-- As a date false is no date, and its text the beginning of 1970; both are prepared alike. -/
theorem prepare_zero : prepare field (.text "0") .date = prepare field (.bool false) .date := by
  have hdisplay : (Value.int 0).display = "0" := by decide +kernel
  have hzero : timestamp field (.text "0") = .ok (some 0) := by
    rw [← hdisplay]
    exact timestamp_int 0 (by decide +kernel)
  have hnone : timestamp field (.bool false) = .ok none := rfl
  have hwritable : (Value.int 0).isWritable := by decide +kernel
  have hnull : Value.null.isWritable := rfl
  have htext : prepareText (.int 0) = prepareText .null := by decide +kernel
  unfold prepare
  rw [reduced, reduced, hzero, hnone, Except.map, Except.map, ok_bind, ok_bind, Option.elim_some,
    Option.elim_none, if_pos hwritable, if_pos hnull, htext]

/-- A value that restates itself is prepared as it was before it was written. -/
theorem prepare_stated (hwritable : v.isWritable) (h : v.Restates type) :
    prepare field (v.stated.elim .null .text) type = prepare field v type := by
  cases v with
  | null => rfl
  | bool b =>
    cases type with
    | date =>
      obtain rfl : b = false := h rfl
      exact prepare_zero
    | text | numeric => cases b <;> rfl
  | int n =>
    refine prepare_display hwritable rfl fun _ => ?_
    rw [timestamp_int n ((Value.isWritable_int n).symm.trans hwritable)]
    rfl
  | text s => rfl
  | date d => exact prepare_display rfl rfl fun _ => timestamp_date d
  | dateTime t => exact prepare_display rfl rfl fun _ => timestamp_dateTime h
  | float x | time t | list items | map entries => exact absurd h id

/-! ## Failures of values -/

theorem isWritable_of_textTimestamp {s : List Char} {n : Int}
    (h : textTimestamp field s = .ok (some n)) : Text.Integer.isWritable n := by
  simp only [textTimestamp] at h
  split at h
  · cases h
  · split at h
    · next m hread =>
      obtain rfl := Option.some.inj (Except.ok.inj h)
      exact Text.Integer.isWritable_of_read? hread
    · split at h
      · next t _ =>
        obtain rfl := Option.some.inj (Except.ok.inj h)
        exact t.isWritable_timestamp
      · cases h

/-- The timestamp of a value that has one can be written. -/
theorem isWritable_of_timestamp {n : Int} (hwritable : v.isWritable) (hv : v.Timed)
    (h : timestamp field v = .ok (some n)) : Text.Integer.isWritable n := by
  cases v with
  | null | bool b => cases h
  | int m =>
    obtain rfl := Option.some.inj (Except.ok.inj h)
    exact (Value.isWritable_int m).symm.trans hwritable
  | float x =>
    obtain ⟨m, htruncate, hm⟩ := hv
    cases x with
    | nan | infinite negative => cases h
    | finite negative significand exponent =>
      obtain rfl := Option.some.inj (htruncate.symm.trans (Except.ok.inj h))
      exact hm
  | date d =>
    obtain rfl := Option.some.inj (Except.ok.inj h)
    exact (DateTime.startOf d).isWritable_timestamp
  | dateTime t =>
    obtain rfl := Option.some.inj (Except.ok.inj h)
    exact t.isWritable_timestamp
  | text s | time t | list items | map entries =>
    rw [timestamp.eq_def] at h
    exact isWritable_of_textTimestamp ((if_pos hwritable).symm.trans h)

/-- Of the values with a timestamp only the text of one can be without it. -/
theorem timestamp_eq_error_of_timed {e : Failure} (hwritable : v.isWritable) (hv : v.Timed)
    (h : timestamp field v = .error e) : ∃ s, e = .invalidDate field s := by
  cases v with
  | null | bool b | int n | date d | dateTime t => cases h
  | float x =>
    obtain ⟨m, htruncate, -⟩ := hv
    cases x with
    | nan | infinite negative => cases htruncate
    | finite negative significand exponent => cases h
  | text s | time t | list items | map entries =>
    rw [timestamp.eq_def] at h
    exact textTimestamp_eq_error ((if_pos hwritable).symm.trans h)

/-- Apart from the doubles without a timestamp only a text that is no date cannot be
prepared. -/
theorem prepare_eq_error_of_timed {e : Failure} (hwritable : v.isWritable)
    (hv : type = .date → v.Timed) (h : prepare field v type = .error e) :
    ∃ s, e = .invalidDate field s := by
  unfold prepare at h
  rcases bind_eq_error h with h | ⟨v', hv', h⟩
  · cases type with
    | text | numeric => cases h
    | date =>
      cases ht : timestamp field v with
      | ok t => rw [reduced, ht] at h; cases h
      | error e' =>
        rw [reduced, ht] at h
        obtain rfl : e' = e := Except.error.inj h
        exact timestamp_eq_error_of_timed hwritable (hv rfl) ht
  · have hwritable' : v'.isWritable := by
      cases type with
      | text | numeric =>
        obtain rfl := Except.ok.inj hv'
        exact hwritable
      | date =>
        cases ht : timestamp field v with
        | error e => rw [reduced, ht] at hv'; cases hv'
        | ok t =>
          rw [reduced, ht] at hv'
          obtain rfl := Except.ok.inj hv'
          cases t with
          | none => rfl
          | some n =>
            exact (Value.isWritable_int n).trans (isWritable_of_timestamp hwritable (hv rfl) ht)
    rw [if_pos hwritable'] at h
    cases h

end BooleanQuery

/-! ## Filters -/

namespace Filter

open BooleanQuery

variable {r : Registry} {field : String} {c : Constraint}

/-- A constraint that a registry translates as what it is read back as. -/
def Restated (r : Registry) (field : String) (c : Constraint) : Prop :=
  c.value.isWritable ∧ ∀ d ∈ r.find? field, c.value.Restates d.type

instance (r : Registry) (field : String) (c : Constraint) : Decidable (Restated r field c) :=
  inferInstanceAs (Decidable (_ ∧ ∀ d ∈ r.find? field, _))

theorem expression_restoredConstraint (h : Restated r field c) :
    expression (some r) field (restoredConstraint c) = expression (some r) field c := by
  unfold expression
  cases hd : descriptor (some r) field with
  | error e => rfl
  | ok d =>
    have hprepare : prepare field (c.value.stated.elim .null .text) d.type =
        prepare field c.value d.type :=
      prepare_stated h.1 (h.2 d (descriptor_eq_ok_iff.1 hd))
    rw [ok_bind, ok_bind]
    simp only [restoredConstraint, hprepare]

theorem groupExpressions_cons (field : String) (cs : List Constraint) (fields : FieldConstraints) :
    groupExpressions r ((field, cs) :: fields) = do
      let exprs ← cs.mapM (expression (some r) field)
      let rest ← groupExpressions r fields
      return exprs ++ rest := by
  unfold groupExpressions
  rw [List.flatMap_cons, List.mapM_append, List.mapM_map]
  rfl

theorem groupExpressions_restoredFields {fields : FieldConstraints}
    (h : ∀ entry ∈ fields, ∀ c ∈ entry.2, Restated r entry.1 c) :
    groupExpressions r (restoredFields fields) = groupExpressions r fields := by
  induction fields with
  | nil => rfl
  | cons entry fields ih =>
    obtain ⟨field, cs⟩ := entry
    obtain ⟨hcs, hfields⟩ := List.forall_mem_cons.1 h
    have hrestored : restoredFields ((field, cs) :: fields) =
        (field, cs.map restoredConstraint) :: restoredFields fields := rfl
    have hexprs : cs.mapM (expression (some r) field ∘ restoredConstraint) =
        cs.mapM (expression (some r) field) :=
      mapM_congr fun c hc => expression_restoredConstraint (hcs c hc)
    rw [hrestored, groupExpressions_cons, groupExpressions_cons, ih hfields, List.mapM_map, hexprs]

theorem groupParts_restoredFields {fields : FieldConstraints}
    (h : ∀ entry ∈ fields, ∀ c ∈ entry.2, Restated r entry.1 c) (group : Int) :
    groupParts r group (restoredFields fields) = groupParts r group fields := by
  unfold groupParts
  rw [groupExpressions_restoredFields h]

variable {f : Filter} {registry : Option Registry}

theorem groupParts_nil (group : Int) : groupParts r group [] = .ok [] := by
  unfold groupParts groupExpressions
  rw [List.flatMap_nil, List.mapM_nil]
  exact congrArg Except.ok (if_pos (.inr rfl))

theorem ofFilter_eq (registry : Option Registry) (f : Filter) :
    ofFilter registry f =
      ((f.groups.mapM fun g => groupParts (registry.getD f.registry) g.1 g.2).map
        List.flatten).map
          fun parts : List String => if parts.isEmpty then none else some (join "and" parts) := by
  change ((f.groups.mapM fun g => groupParts (registry.getD f.registry) g.1 g.2) >>=
    fun parts => pure (if parts.flatten.isEmpty then none else some (join "and" parts.flatten))) = _
  cases f.groups.mapM fun g => groupParts (registry.getD f.registry) g.1 g.2 <;> rfl

/-- Neither the texts in place of values nor the groups that are missing change the query. -/
theorem ofFilter_restored (h : ∀ g ∈ f.groups, ∀ entry ∈ g.2, ∀ c ∈ entry.2,
    Restated (registry.getD f.registry) entry.1 c) :
    ofFilter registry f.restored = ofFilter registry f := by
  have hparts : (f.restored.groups.mapM fun g =>
        groupParts (registry.getD f.registry) g.1 g.2).map List.flatten =
      (f.groups.mapM fun g => groupParts (registry.getD f.registry) g.1 g.2).map List.flatten := by
    unfold restored
    rw [List.mapM_map]
    refine Eq.trans ?_ (flatten_mapM_filter (p := fun g => !g.2.isEmpty) fun g _ hempty => ?_)
    · refine congrArg (Except.map List.flatten) (mapM_congr fun g hg => ?_)
      exact groupParts_restoredFields (h g (List.mem_filter.1 hg).1) g.1
    · obtain ⟨group, fields⟩ := g
      obtain rfl : fields = [] := by simpa using hempty
      exact groupParts_nil group
  rw [ofFilter_eq, ofFilter_eq]
  exact congrArg _ hparts

theorem request_restored (h : ∀ g ∈ f.groups, ∀ entry ∈ g.2, ∀ c ∈ entry.2,
    Restated (registry.getD f.registry) entry.1 c) (offset size : Int) :
    Request.ofFilter registry f.restored offset size = Request.ofFilter registry f offset size := by
  unfold Request.ofFilter
  rw [ofFilter_restored h]
  rfl

/-! ## Requests for filters that come back -/

/-- Of the values that restate themselves only a text can fail to come back. -/
theorem restorable_of_restates {v : Value} (type : ValueType) (hwritable : v.isWritable)
    (h : v.Restates type) (htext : ∀ s, v ≠ .text s) (comparison : Comparison) (isDefault : Bool) :
    Restorable ⟨v, comparison, isDefault⟩ := by
  refine ⟨hwritable, fun s hs => ?_⟩
  have hfigures {t : List Char} (ht : ∀ a ∈ t, isFigure a) (hs : String.ofList t = s) :
      Plain s.toList ∧ Survives comparison (some s) := by
    have hs : ∀ a ∈ s.toList, isFigure a := by
      rwa [← hs, String.toList_ofList]
    exact ⟨plain_of_figures hs, survives_of_figures hs comparison⟩
  cases v with
  | null => cases hs
  | bool b => cases b <;> exact hfigures (List.forall_mem_singleton.2 rfl) (Option.some.inj hs)
  | int n => exact hfigures (isFigure_decimalInt n) (Option.some.inj hs)
  | text s => exact absurd rfl (htext s)
  | date d => exact hfigures (isFigure_date d) (Option.some.inj hs)
  | dateTime t =>
    have hspace := survives_of_space (isFigure_date t.date) (isFigure_time t) comparison
    have hwrite : t.write ' ' =
        t.date.write ++ ' ' :: (t.clock.write ++ t.offset.elim [] Offset.write) := by
      unfold DateTime.write
      rw [List.append_assoc, List.cons_append]
    obtain rfl : String.ofList (t.write ' ') = s := Option.some.inj hs
    rw [hwrite, String.toList_ofList]
    exact hspace
  | float x | time t | list items | map entries => exact absurd h id

/-- The failures of translating a field. -/
inductive TranslationFailure (field : String) : Failure → Prop
  | unmapped : TranslationFailure field (.unmappedField field)
  | invalidDate (s : String) : TranslationFailure field (.invalidDate field s)
  | unsupported (c : Comparison) (t : ValueType) :
      TranslationFailure field (.unsupportedComparison field c t)

theorem Restated.translationFailure {e : Failure} (h : Restated r field c)
    (he : Untranslatable r field c e) : TranslationFailure field e := by
  cases he with
  | unmapped _ => exact .unmapped
  | unprepared d hd _ he =>
    have htimed (htype : d.type = .date) : c.value.Timed := (htype ▸ h.2 d hd).timed
    obtain ⟨s, rfl⟩ := prepare_eq_error_of_timed h.1 htimed he
    exact .invalidDate s
  | unsupported _ _ _ _ => exact .unsupported _ _

/-- A page of a filter with such constraints has a request, or one field fails. -/
theorem request_ok_or_translationFailure (h : ∀ g ∈ f.groups, ∀ entry ∈ g.2, ∀ c ∈ entry.2,
    Restated (registry.getD f.registry) entry.1 c) {offset size : Int} (hoffset : 0 ≤ offset)
    (hsize : 0 < size) :
    (∃ q, Request.ofFilter registry f offset size = .ok q) ∨
      ∃ field e, TranslationFailure field e ∧
        Request.ofFilter registry f offset size = .error e := by
  cases hq : Request.ofFilter registry f offset size with
  | ok q => exact .inl ⟨q, rfl⟩
  | error e =>
    rcases Request.ofFilter_eq_error hq with ⟨hneg, -⟩ | ⟨hneg, -⟩ | hquery
    · exact absurd hneg (Int.not_lt.2 hoffset)
    · exact absurd hneg (Int.not_le.2 hsize)
    · obtain ⟨g, hg, entry, hentry, c, hc, he⟩ := exists_of_ofFilter_eq_error hquery
      exact .inr ⟨entry.1, e, (h g hg entry hentry c hc).translationFailure he, rfl⟩

/-- Whatever changes made a filter, if its constraints and its keywords are restorable and its
values restate themselves, it can be written, and what is read of its search string has the
same request for any page, or the same failure of the same field. -/
theorem request_ofQuery_toQuery_run (hr : r.Readable) (changes : List Change)
    (registry : Option Registry)
    (hvalues : ∀ group field, ∀ c ∈ ((empty r).run changes).constraints field group,
      Restorable c ∧ Restated (registry.getD r) field c)
    (hkeywords : ∀ k ∈ ((empty r).run changes).keywords, RestorableKeywords k)
    {offset size : Int} (hoffset : 0 ≤ offset) (hsize : 0 < size) :
    ((empty r).run changes).isWritable ∧
      ((∃ q, Request.ofFilter registry ((empty r).run changes) offset size = .ok q ∧
        Request.ofFilter registry (ofQuery r ((empty r).run changes).toQuery) offset size =
          .ok q) ∨
      ∃ field e, TranslationFailure field e ∧
        Request.ofFilter registry ((empty r).run changes) offset size = .error e ∧
        Request.ofFilter registry (ofQuery r ((empty r).run changes).toQuery) offset size =
          .error e) := by
  have hf := wellFormed_run r changes
  have hregistry : ((empty r).run changes).registry = r := registry_run (empty r) changes
  generalize (empty r).run changes = f at hf hvalues hkeywords hregistry
  subst hregistry
  have hrestorable : ∀ group field, ∀ c ∈ f.constraints field group, Restorable c :=
    fun group field c hc => (hvalues group field c hc).1
  have hrestated : ∀ g ∈ f.groups, ∀ entry ∈ g.2, ∀ c ∈ entry.2,
      Restated (registry.getD f.registry) entry.1 c :=
    (forall_constraints_iff (P := fun _ => Restated (registry.getD f.registry)) hf.toKeyed).1
      fun group field c hc => (hvalues group field c hc).2
  have hback : ofQuery f.registry f.toQuery = f.restored :=
    ofQuery_toQuery hf (legible_of_restorable hr hrestorable hkeywords)
      (surviving_of_restorable hf.toKeyed hrestorable)
  have hsame := request_restored hrestated offset size
  refine ⟨isWritable_of_restorable hf.toKeyed hrestorable, ?_⟩
  rw [hback, hsame]
  rcases request_ok_or_translationFailure hrestated hoffset hsize with ⟨q, hq⟩ | ⟨field, e, he, hq⟩
  · exact .inl ⟨q, hq, hq⟩
  · exact .inr ⟨field, e, he, hq, hq⟩

/-- A field of dates and one of numbers. -/
def visits : Registry :=
  ⟨[("day", ⟨["day"], .date, by decide⟩), ("guests", ⟨["guests"], .numeric, by decide⟩)], by decide⟩

/-- The evening of a leap day, to the microsecond and behind UTC. -/
def leapEvening : DateTime :=
  ⟨⟨2020, 2, 29, by decide⟩, ⟨20, 30, 0, 500000, by decide⟩, some ⟨-19800000000, by decide⟩⟩

/-- A default and a date as a bound; behind a missing group a date with a time, and no date. -/
def visitChanges : List Change :=
  [.addDefaults [("guests", .int 7)], .add (.text "day") (.date leapEvening.date) (.text ">") false 0,
    .add (.text "day") (.dateTime leapEvening) (.text "<") false 2,
    .add (.text "day") (.bool false) (.text "!") false 2, .setKeywords (some "old town")]

def visitRequest : Request :=
  ⟨some "(and guests:7 day:1582934400.. (or day:..1583028000 (not day:0)))", some "old town", none,
    10, 20⟩

theorem request_ofQuery_toQuery_visitChanges :
    visits.Readable ∧
      (∀ group field, ∀ c ∈ ((empty visits).run visitChanges).constraints field group,
        Restorable c ∧ Restated visits field c) ∧
      (∀ k ∈ ((empty visits).run visitChanges).keywords, RestorableKeywords k) ∧
      Request.ofFilter none ((empty visits).run visitChanges) 20 10 = .ok visitRequest ∧
      Request.ofFilter none (ofQuery visits ((empty visits).run visitChanges).toQuery) 20 10 =
        .ok visitRequest := by
  have hr : visits.Readable := by decide
  have hgroups : ((empty visits).run visitChanges).groups =
      [(0, [("guests", [⟨.int 7, .equals, true⟩]),
        ("day", [⟨.date leapEvening.date, .greater, false⟩])]),
      (2, [("day", [⟨.dateTime leapEvening, .less, false⟩, ⟨.bool false, .notEquals, false⟩])])] := by
    rfl
  have hvalues : ∀ group field, ∀ c ∈ ((empty visits).run visitChanges).constraints field group,
      Restorable c ∧ Restated visits field c := by
    refine (forall_constraints_iff (P := fun _ field c => Restorable c ∧ Restated visits field c)
      (wellFormed_run visits visitChanges).toKeyed).2 ?_
    have hguests : Restated visits "guests" ⟨.int 7, .equals, true⟩ := by decide +kernel
    have hday : Restated visits "day" ⟨.date leapEvening.date, .greater, false⟩ := by decide
    have hevening : Restated visits "day" ⟨.dateTime leapEvening, .less, false⟩ := by decide
    have hnever : Restated visits "day" ⟨.bool false, .notEquals, false⟩ := by decide
    rw [hgroups]
    simp only [List.forall_mem_cons, List.not_mem_nil, false_imp_iff, implies_true, and_true]
    exact ⟨⟨⟨restorable_of_restates .numeric hguests.1 trivial nofun _ _, hguests⟩,
        ⟨restorable_of_restates .date hday.1 trivial nofun _ _, hday⟩⟩,
      ⟨restorable_of_restates .date hevening.1 (hevening.2 _ rfl) nofun _ _, hevening⟩,
      ⟨restorable_of_restates .date hnever.1 (fun _ => rfl) nofun _ _, hnever⟩⟩
  have hkeywords : ∀ k ∈ ((empty visits).run visitChanges).keywords, RestorableKeywords k := by
    decide +kernel
  have hq : Request.ofFilter none ((empty visits).run visitChanges) 20 10 = .ok visitRequest :=
    eq_ok_of_toOption (by decide +kernel)
  have hoffset : (0 : Int) ≤ 20 := by decide
  have hsize : (0 : Int) < 10 := by decide
  obtain ⟨-, hsame⟩ :=
    request_ofQuery_toQuery_run hr visitChanges none hvalues hkeywords hoffset hsize
  refine ⟨hr, hvalues, hkeywords, hq, ?_⟩
  rcases hsame with ⟨q, h, hback⟩ | ⟨field, e, -, h, -⟩
  · rw [hback, ← h, hq]
  · rw [hq] at h
    cases h

end Filter

end FieldedSearch
