-- SUMMARY: With which failures a filter is translated, and from which of its constraints they come.
import FieldedSearch.BooleanQuery.Request
import FieldedSearch.Proofs.Outcomes

/-!
# Translating a filter

Apart from the page that is asked for, a filter is translated constraint by constraint. If
it cannot be translated, the failure is that of one of its constraints: a field that is not
in the registry, a value that cannot be prepared, or a bound on a field of texts.
-/

namespace FieldedSearch.BooleanQuery

variable {r : Registry} {field physical : String} {c : Constraint} {e : Failure}

/-! ## Values -/

theorem textTimestamp_eq_error {text : List Char} (h : textTimestamp field text = .error e) :
    ∃ s, e = .invalidDate field s := by
  simp only [textTimestamp] at h
  split at h
  · cases h
  · split at h
    · cases h
    · split at h
      · cases h
      · exact ⟨_, (Except.error.inj h).symm⟩

/-- Only doubles that are no numbers, values of which there is no text, and what is taken
for the text of a date have no timestamp. -/
theorem timestamp_eq_error {v : Value} (h : timestamp field v = .error e) :
    e = .notANumber ∨ e = .tooLarge ∨ (∃ v, e = .unwritable v) ∨
      ∃ s, e = .invalidDate field s := by
  cases v with
  | null | bool b | int n | date d | dateTime t => simp [timestamp] at h
  | float x =>
    cases x with
    | nan => exact .inl (Except.error.inj h).symm
    | infinite negative => exact .inr (.inl (Except.error.inj h).symm)
    | finite negative m exponent => simp [timestamp] at h
  | text s | time t | list items | map entries =>
    rw [timestamp.eq_def] at h
    simp only at h
    split at h
    · exact .inr (.inr (.inr (textTimestamp_eq_error h)))
    · exact .inr (.inr (.inl ⟨_, (Except.error.inj h).symm⟩))

theorem prepare_eq_ok {v : Value} {type : ValueType} {s : String}
    (h : prepare field v type = .ok s) :
    ∃ v', reduced field v type = .ok v' ∧ v'.isWritable ∧ s = prepareText v' := by
  unfold prepare at h
  obtain ⟨v', hv', h⟩ := exists_of_bind_eq_ok h
  split at h
  · next hwritable => exact ⟨v', hv', hwritable, (Except.ok.inj h).symm⟩
  · cases h

theorem prepare_eq_error {v : Value} {type : ValueType} (h : prepare field v type = .error e) :
    e = .notANumber ∨ e = .tooLarge ∨ (∃ v, e = .unwritable v) ∨
      ∃ s, e = .invalidDate field s := by
  unfold prepare at h
  rcases bind_eq_error h with hv | ⟨v', -, h⟩
  · cases type with
    | text | numeric => cases hv
    | date =>
      cases ht : timestamp field v with
      | error e' =>
        rw [reduced, ht] at hv
        exact timestamp_eq_error (ht.trans (congrArg Except.error (Except.error.inj hv)))
      | ok t => rw [reduced, ht] at hv; cases hv
  · split at h
    · cases h
    · exact .inr (.inr (.inl ⟨_, (Except.error.inj h).symm⟩))

/-! ## Constraints -/

theorem fieldExpression_eq_error {type : ValueType} {value : String}
    (h : fieldExpression field physical c.comparison type value = .error e) :
    c.comparison.isRange ∧ type = .text ∧ e = .unsupportedComparison field c.comparison type := by
  cases hc : c.comparison <;> simp only [fieldExpression, hc] at h
  case equals | like | notEquals | notLike => contradiction
  all_goals
    split at h
    · next htype => exact ⟨rfl, htype, (Except.error.inj h).symm⟩
    · contradiction

/-- The ways in which a constraint on a field fails to be an expression. -/
inductive Untranslatable (r : Registry) (field : String) (c : Constraint) : Failure → Prop
  | unmapped (h : r.find? field = none) : Untranslatable r field c (.unmappedField field)
  | unprepared (d : Descriptor) (hd : r.find? field = some d) (e : Failure)
      (h : prepare field c.value d.type = .error e) : Untranslatable r field c e
  | unsupported (d : Descriptor) (hd : r.find? field = some d) (htype : d.type = .text)
      (hrange : c.comparison.isRange) :
      Untranslatable r field c (.unsupportedComparison field c.comparison .text)

/-- No value and no bound is taken for a field that is missing. -/
theorem Untranslatable.unmapped_iff {name : String} :
    Untranslatable r field c (.unmappedField name) ↔ name = field ∧ r.find? field = none := by
  constructor
  · intro h
    cases h with
    | unmapped h => exact ⟨rfl, h⟩
    | unprepared d hd _ h =>
      rcases prepare_eq_error h with h | h | ⟨v, h⟩ | ⟨s, h⟩ <;> cases h
  · rintro ⟨rfl, h⟩
    exact .unmapped h

theorem descriptor_eq_ok_iff {d : Descriptor} :
    descriptor (some r) field = .ok d ↔ r.find? field = some d := by
  unfold descriptor
  rw [Option.bind_some]
  cases r.find? field <;> simp

theorem descriptor_eq_error (h : descriptor (some r) field = .error e) :
    r.find? field = none ∧ e = .unmappedField field := by
  unfold descriptor at h
  split at h
  · contradiction
  · next hfind => exact ⟨hfind, (Except.error.inj h).symm⟩

theorem untranslatable_of_expression (h : expression (some r) field c = .error e) :
    Untranslatable r field c e := by
  unfold expression at h
  rcases bind_eq_error h with hd | ⟨d, hd, h⟩
  · obtain ⟨hfind, rfl⟩ := descriptor_eq_error hd
    exact .unmapped hfind
  have hfind := descriptor_eq_ok_iff.1 hd
  rcases bind_eq_error h with hvalue | ⟨value, -, h⟩
  · exact .unprepared d hfind e hvalue
  rcases bind_eq_error h with hparts | ⟨parts, -, h⟩
  · obtain ⟨physical, -, hpart⟩ := exists_of_mapM_eq_error hparts
    obtain ⟨hrange, htype, rfl⟩ := fieldExpression_eq_error hpart
    rw [htype]
    exact .unsupported d hfind htype hrange
  · split at h <;> contradiction

/-! ## Filters -/

variable {f : Filter} {registry : Option Registry}

/-- The boolean query of a filter fails with the failure of one of its constraints. -/
theorem exists_of_ofFilter_eq_error (h : ofFilter registry f = .error e) :
    ∃ g ∈ f.groups, ∃ entry ∈ g.2, ∃ c ∈ entry.2,
      Untranslatable (registry.getD f.registry) entry.1 c e := by
  unfold ofFilter at h
  rcases bind_eq_error h with hgroups | ⟨parts, -, h⟩
  · obtain ⟨⟨group, fields⟩, hg, hparts⟩ := exists_of_mapM_eq_error hgroups
    unfold groupParts at hparts
    rcases bind_eq_error hparts with hexprs | ⟨exprs, -, h⟩
    · obtain ⟨⟨field, c⟩, hc, hexpr⟩ := exists_of_mapM_eq_error hexprs
      obtain ⟨⟨name, cs⟩, he, hc⟩ := List.mem_flatMap.1 hc
      obtain ⟨c', hc', heq⟩ := List.mem_map.1 hc
      obtain ⟨rfl, rfl⟩ := Prod.mk.inj heq
      exact ⟨_, hg, _, he, c', hc', untranslatable_of_expression hexpr⟩
    · contradiction
  · contradiction

end FieldedSearch.BooleanQuery

namespace FieldedSearch.Request

variable {f : Filter} {registry : Option Registry} {offset size : Int} {q : Request}

/-- A request for a page that there may be fails only with the boolean query. -/
theorem ofFilter_eq_error {e : Failure} (h : ofFilter registry f offset size = .error e) :
    offset < 0 ∧ e = .negativeOffset offset ∨ size ≤ 0 ∧ e = .nonPositivePageSize size ∨
      BooleanQuery.ofFilter registry f = .error e := by
  unfold ofFilter at h
  split at h
  · next hoffset => exact .inl ⟨hoffset, (Except.error.inj h).symm⟩
  · split at h
    · next hsize => exact .inr (.inl ⟨hsize, (Except.error.inj h).symm⟩)
    · rcases bind_eq_error h with h | ⟨_, -, h⟩
      · exact .inr (.inr h)
      · cases h

theorem ofFilter_eq_ok (h : ofFilter registry f offset size = .ok q) :
    0 ≤ offset ∧ 0 < size ∧ ∃ booleanQuery, BooleanQuery.ofFilter registry f = .ok booleanQuery ∧
      q = ⟨booleanQuery, f.keywords.map BooleanQuery.escape, rankOf f, size, offset⟩ := by
  unfold ofFilter at h
  split at h
  · cases h
  · next hoffset =>
    split at h
    · cases h
    · next hsize =>
      obtain ⟨booleanQuery, hquery, h⟩ := exists_of_bind_eq_ok h
      exact ⟨Int.not_lt.1 hoffset, Int.not_le.1 hsize, booleanQuery, hquery,
        (Except.ok.inj h).symm⟩

end FieldedSearch.Request
