-- SUMMARY: With which accepted settings every search string ends in a request or in a reported failure.
import FieldedSearch.CommandLine.Report
import FieldedSearch.Proofs.BooleanReading
import FieldedSearch.Proofs.Restating
import FieldedSearch.Proofs.Tidy

/-!
# Accepted settings

Settings are checked before anything is searched for, so that afterwards only the search
string is to blame. The check covers the comparisons of the defaults and the size of a page,
but not their values: of a number with too many digits, or of tables nested too deeply, there
is no text (`Value.isWritable_iff`), and a double without a whole part is no date.
`answered_iff` says that nothing else is missed.
-/

namespace FieldedSearch

/-! ## Values that can be written -/

namespace Value

mutual

/-- How many values stand within one another, at most. -/
def height : Value → Nat
  | .list items => itemsHeight items + 1
  | .map entries => entriesHeight entries + 1
  | _ => 1

def itemsHeight : List Value → Nat
  | [] => 0
  | v :: vs => max v.height (itemsHeight vs)

def entriesHeight : List (String × Value) → Nat
  | [] => 0
  | (_, v) :: rest => max v.height (entriesHeight rest)

end

mutual

/-- The whole numbers in a value. -/
def numbers : Value → List Int
  | .int n => [n]
  | .list items => itemsNumbers items
  | .map entries => entriesNumbers entries
  | _ => []

def itemsNumbers : List Value → List Int
  | [] => []
  | v :: vs => v.numbers ++ itemsNumbers vs

def entriesNumbers : List (String × Value) → List Int
  | [] => []
  | (_, v) :: rest => v.numbers ++ entriesNumbers rest

end

theorem height_pos (v : Value) : 0 < v.height := by
  cases v <;> simp [height]

mutual

theorem obstacleWithin?_eq_none_iff : (v : Value) → (depth : Nat) →
    (v.obstacleWithin? depth = none ↔
      v.height ≤ depth ∧ ∀ n ∈ v.numbers, Text.Integer.isWritable n)
  | v, 0 => by
    have hpos := v.height_pos
    have hnot : ¬ v.height ≤ 0 := Nat.not_le.2 hpos
    simp [obstacleWithin?, hnot]
  | .list items, depth + 1 => by
    simp [obstacleWithin?, height, numbers, itemsObstacle?_eq_none_iff items depth]
  | .map entries, depth + 1 => by
    simp [obstacleWithin?, height, numbers, entriesObstacle?_eq_none_iff entries depth]
  | .int n, depth + 1 => by simp [obstacleWithin?, height, numbers]
  | .null, _ + 1 | .bool _, _ + 1 | .float _, _ + 1 | .text _, _ + 1 | .date _, _ + 1
  | .dateTime _, _ + 1 | .time _, _ + 1 => by simp [obstacleWithin?, height, numbers]

theorem itemsObstacle?_eq_none_iff : (vs : List Value) → (depth : Nat) →
    (itemsObstacle? depth vs = none ↔
      itemsHeight vs ≤ depth ∧ ∀ n ∈ itemsNumbers vs, Text.Integer.isWritable n)
  | [], depth => by simp [itemsObstacle?, itemsHeight, itemsNumbers]
  | v :: vs, depth => by
    simp only [itemsObstacle?, Option.or_eq_none_iff, obstacleWithin?_eq_none_iff v depth,
      itemsObstacle?_eq_none_iff vs depth, itemsHeight, itemsNumbers, Nat.max_le,
      List.forall_mem_append]
    exact and_and_and_comm

theorem entriesObstacle?_eq_none_iff : (es : List (String × Value)) → (depth : Nat) →
    (entriesObstacle? depth es = none ↔
      entriesHeight es ≤ depth ∧ ∀ n ∈ entriesNumbers es, Text.Integer.isWritable n)
  | [], depth => by simp [entriesObstacle?, entriesHeight, entriesNumbers]
  | (name, v) :: es, depth => by
    simp only [entriesObstacle?, Option.or_eq_none_iff, obstacleWithin?_eq_none_iff v depth,
      entriesObstacle?_eq_none_iff es depth, entriesHeight, entriesNumbers, Nat.max_le,
      List.forall_mem_append]
    exact and_and_and_comm

end

/-- A value has a text exactly if it is not too high and all numbers in it have few enough
digits. -/
theorem isWritable_iff {v : Value} :
    v.isWritable ↔ v.height ≤ depthLimit ∧ ∀ n ∈ v.numbers, Text.Integer.isWritable n := by
  rw [isWritable, Option.isNone_iff_eq_none, obstacle?, obstacleWithin?_eq_none_iff]

end Value

/-! ## The first constraint without an expression -/

/-- The constraints of a filter, group by group. -/
def Filter.stored (f : Filter) : List (String × Constraint) :=
  f.groups.flatMap fun g => BooleanQuery.stored g.2

namespace BooleanQuery

variable {r : Registry} {registry : Option Registry} {f : Filter} {fields : FieldConstraints}
  {group : Int} {field : String} {c : Constraint} {v : Value} {e : Failure}

private theorem groupParts_eq_error_iff : groupParts r group fields = .error e ↔
    ((stored fields).mapM fun entry => expression (some r) entry.1 entry.2) = .error e := by
  refine bind_eq_error_iff.trans (or_iff_left ?_)
  rintro ⟨parts, -, h⟩
  cases h

/-- A filter has no query exactly if one of its constraints has no expression; the failure is
that of the first such constraint. -/
theorem ofFilter_eq_error_iff : ofFilter registry f = .error e ↔
    ∃ before entry after, f.stored = before ++ entry :: after ∧
      (∀ b ∈ before, ∃ s, expression (some (registry.getD f.registry)) b.1 b.2 = .ok s) ∧
      expression (some (registry.getD f.registry)) entry.1 entry.2 = .error e := by
  have hgroups : ofFilter registry f = .error e ↔
      (f.groups.mapM fun g => groupParts (registry.getD f.registry) g.1 g.2) = .error e := by
    refine bind_eq_error_iff.trans (or_iff_left ?_)
    rintro ⟨parts, -, h⟩
    cases h
  have hgroup (g : Int × FieldConstraints) (e : Failure) :
      groupParts (registry.getD f.registry) g.1 g.2 = .error e ↔ ((stored g.2).mapM fun entry =>
        expression (some (registry.getD f.registry)) entry.1 entry.2) = .error e :=
    groupParts_eq_error_iff
  rw [hgroups, mapM_flatMap_eq_error_iff hgroup]
  exact mapM_eq_error_iff

/-- A constraint on a date whose value is a double without a timestamp. -/
def Timeless (r : Registry) (field : String) (c : Constraint) : Prop :=
  ∃ d, r.find? field = some d ∧ d.type = .date ∧ ¬ c.value.Timed

/-- A constraint that has no expression, which is reported. -/
def Refused (r : Registry) (field : String) (c : Constraint) : Prop :=
  ∃ e, expression (some r) field c = .error e ∧ e.category = .query

/-- A double without a timestamp is not prepared as a date, and this is not reported. -/
theorem prepare_of_not_timed (h : ¬ v.Timed) :
    ∃ e, prepare field v .date = .error e ∧ e.category = .internal := by
  cases v with
  | float x =>
    cases x with
    | nan => exact ⟨.notANumber, rfl, rfl⟩
    | infinite negative => exact ⟨.tooLarge, rfl, rfl⟩
    | finite negative significand exponent =>
      cases htruncate : (Double.finite negative significand exponent).truncate? with
      | none => cases htruncate
      | some n =>
        have hreduced : reduced field (.float (.finite negative significand exponent)) .date =
            .ok (.int n) := by
          rw [reduced, timestamp, htruncate]
          · rfl
          · intro h
            cases h
          · intro negative h
            cases h
        have hn : (Value.int n).isWritable ≠ true := fun hn =>
          h ⟨n, htruncate, (Value.isWritable_int n).symm.trans hn⟩
        refine ⟨.unwritable (.int n), ?_, rfl⟩
        unfold prepare
        rw [hreduced, ok_bind, if_neg hn]
        rfl
  | _ => exact absurd trivial h

theorem Timeless.expression_eq_error (h : Timeless r field c) :
    ∃ e, expression (some r) field c = .error e ∧ e.category = .internal := by
  obtain ⟨d, hd, htype, htimed⟩ := h
  obtain ⟨e, he, hcategory⟩ : ∃ e, prepare field c.value .date = .error e ∧
      e.category = .internal := prepare_of_not_timed htimed
  refine ⟨e, ?_, hcategory⟩
  unfold expression
  rw [descriptor_eq_ok_iff.2 hd, ok_bind, htype, he]
  rfl

/-- Any other constraint whose value can be written fails only in a way that is reported. -/
theorem category_of_expression (hwritable : c.value.isWritable) (htimed : ¬ Timeless r field c)
    (h : expression (some r) field c = .error e) : e.category = .query := by
  cases untranslatable_of_expression h with
  | unmapped _ => rfl
  | unprepared d hd _ he =>
    have hv (htype : d.type = .date) : c.value.Timed := by
      by_contra hv
      exact htimed ⟨d, hd, htype, hv⟩
    obtain ⟨s, rfl⟩ := prepare_eq_error_of_timed hwritable hv he
    rfl
  | unsupported _ _ _ _ => rfl

/-- A filter whose values can be written fails only in a way that is reported exactly if
every constraint on a date without a timestamp stands behind one that is refused. -/
theorem category_of_ofFilter_iff (registry : Option Registry)
    (hwritable : ∀ entry ∈ f.stored, entry.2.value.isWritable) :
    (∀ e, ofFilter registry f = .error e → e.category = .query) ↔
      ∀ before entry after, f.stored = before ++ entry :: after →
        Timeless (registry.getD f.registry) entry.1 entry.2 →
          ∃ b ∈ before, Refused (registry.getD f.registry) b.1 b.2 := by
  generalize hr : registry.getD f.registry = r
  have hfails (e : Failure) : ofFilter registry f = .error e ↔
      (f.stored.mapM fun entry => expression (some r) entry.1 entry.2) = .error e := by
    rw [ofFilter_eq_error_iff, hr, mapM_eq_error_iff]
  simp only [hfails]
  rw [forall_error_mapM_iff]
  refine forall₃_congr fun before entry after => forall_congr' fun hsplit => ?_
  have hmem : entry ∈ f.stored := hsplit ▸ List.mem_append_right before List.mem_cons_self
  refine imp_congr ⟨?_, fun htimeless => ?_⟩ Iff.rfl
  · rintro ⟨e, he, hcategory⟩
    by_contra htimeless
    exact hcategory (category_of_expression (hwritable entry hmem) htimeless he)
  · obtain ⟨e, he, hcategory⟩ := htimeless.expression_eq_error
    exact ⟨e, he, by rw [hcategory]; exact Category.noConfusion⟩

end BooleanQuery

/-! ## Where constraints come from -/

theorem Proposal.addition?_eq_some {r : Registry} {p : Proposal} {a : Addition}
    (h : p.addition? r = some a) :
    r.contains p.field ∧ p.field = a.field ∧ p.value = a.constraint.value := by
  unfold addition? at h
  split at h
  · split at h
    · next hcontains =>
      obtain rfl := Option.some.inj h
      exact ⟨hcontains.1, rfl, rfl⟩
    · cases h
  · cases h

namespace Filter

variable {f : Filter} {r : Registry} {entry : String × Constraint}

theorem isWritable_iff : f.isWritable ↔ ∀ entry ∈ f.stored, entry.2.value.isWritable := by
  simp only [isWritable_iff_values, values, stored, BooleanQuery.stored, List.forall_mem_flatMap,
    List.forall_mem_map]

/-- What is stored after a run was proposed by one of the changes, for a registered field. -/
theorem exists_of_mem_stored_run {changes : List Change}
    (h : entry ∈ ((empty r).run changes).stored) :
    ∃ change ∈ changes, ∃ p ∈ change.proposals,
      r.contains entry.1 ∧ p.field = entry.1 ∧ p.value = entry.2.value := by
  obtain ⟨⟨group, fields⟩, hg, hmem⟩ := List.mem_flatMap.1 h
  obtain ⟨⟨field, cs⟩, hentry, hmem⟩ := List.mem_flatMap.1 hmem
  obtain ⟨c, hc, rfl⟩ := List.mem_map.1 hmem
  have hconstraints := constraints_of_mem (wellFormed_run r changes).toKeyed hg hentry
  rw [← hconstraints, constraints_run] at hc
  obtain ⟨a, ha, rfl⟩ := List.mem_map.1 ((Constraint.standing_sublist _).mem hc)
  obtain ⟨ha, hfield⟩ := List.mem_filter.1 ha
  obtain ⟨change, hchange, ha⟩ := List.mem_flatMap.1 (List.mem_filter.1 ha).1
  obtain ⟨p, hp, ha⟩ := List.mem_filterMap.1 ha
  obtain ⟨hcontains, hpfield, hvalue⟩ := Proposal.addition?_eq_some ha
  obtain rfl : a.field = field := by simpa using hfield
  refine ⟨change, ?_, p, (List.takeWhile_prefix _).mem hp, hpfield ▸ hcontains, hpfield, hvalue⟩
  exact List.mem_reverse.1 ((List.takeWhile_prefix _).mem (List.mem_reverse.1 hchange))

/-- Reading a search string proposes texts, and null. -/
theorem value_of_mem_proposals_addQuery {query : String} {p : Proposal}
    (h : p ∈ (Change.addQuery query).proposals) : p.value = .null ∨ ∃ s, p.value = .text s := by
  obtain ⟨⟨group, t⟩, -, rfl⟩ := List.mem_map.1 h
  cases hvalue : t.value with
  | none => exact .inl (by simp [Proposal.ofTerm, hvalue])
  | some s => exact .inr ⟨s, by simp [Proposal.ofTerm, hvalue]⟩

end Filter

/-! ## Settings that are accepted -/

namespace Settings

variable {path : Option String} {table : List (String × Value)} {loaded : Loaded}

/-- A default that passes the check has a comparison that is one. -/
theorem exists_comparison {entry : String × Value} (h : checkDefault entry.1 entry.2 = .ok ()) :
    ∃ c, Comparison.ofValue (Filter.defaultParts entry.2).2 = .ok c := by
  have hequals : Comparison.ofValue Filter.defaultComparison = .ok .equals := rfl
  obtain ⟨name, v⟩ := entry
  cases v with
  | map entries =>
    simp only [checkDefault] at h
    split at h
    · next c hc => exact ⟨c, hc⟩
    · cases h
  | _ => exact ⟨.equals, hequals⟩

/-- So it is not refused. -/
theorem isRefused_ofDefault {entry : String × Value} (r : Registry)
    (h : checkDefault entry.1 entry.2 = .ok ()) :
    (Proposal.ofDefault entry).isRefused r = false := by
  obtain ⟨c, hc⟩ := exists_comparison h
  unfold Proposal.isRefused Proposal.addition?
  rw [Bool.and_eq_false_imp]
  intro hcontains
  simp only [Proposal.ofDefault] at hcontains
  simp [Proposal.ofDefault, hc, hcontains]

/-- The check covers the numbers, the fields and the comparisons of the defaults. -/
theorem check_eq_ok_iff {s : Settings} {r : Registry} : s.check = .ok r ↔
    0 < s.pageSize ∧ s.timeout.isNonPositive = false ∧ s.registry = .ok r ∧
      ∀ entry ∈ s.defaults, checkDefault entry.1 entry.2 = .ok () := by
  unfold check
  split
  · next hsize => exact ⟨nofun, fun h => absurd h.1 (Int.not_lt.2 hsize)⟩
  · next hsize =>
    rw [and_iff_right (Int.not_le.1 hsize)]
    split
    · next htimeout => exact ⟨nofun, fun h => absurd (htimeout.symm.trans h.1) Bool.noConfusion⟩
    · next htimeout =>
      rw [and_iff_right (Bool.eq_false_iff.2 htimeout)]
      constructor
      · intro h
        obtain ⟨r', hr', h⟩ := exists_of_bind_eq_ok h
        obtain ⟨_, hdefaults, h⟩ := exists_of_bind_eq_ok h
        obtain rfl := Except.ok.inj h
        exact ⟨hr', forM_eq_ok_iff.1 hdefaults⟩
      · rintro ⟨hr, hdefaults⟩
        rw [hr, ok_bind, forM_eq_ok_iff.2 hdefaults]
        rfl

theorem acceptTable_eq_ok (h : acceptTable path table = .ok loaded) :
    0 < loaded.settings.pageSize ∧
      ∀ entry ∈ loaded.settings.defaults, checkDefault entry.1 entry.2 = .ok () := by
  obtain ⟨settings, -, h⟩ := exists_of_bind_eq_ok h
  obtain ⟨r, hcheck, h⟩ := exists_of_bind_eq_ok h
  obtain rfl := Except.ok.inj h
  obtain ⟨hsize, -, -, hdefaults⟩ := check_eq_ok_iff.1 hcheck
  exact ⟨hsize, hdefaults⟩

end Settings

/-! ## Search strings with accepted settings -/

namespace CommandLine

open BooleanQuery (Timeless Refused)

variable {path : Option String} {table : List (String × Value)} {loaded : Settings.Loaded}
  {query : String} {defaults : Bool} {offset size : Int} {f : Filter}

/-- The changes that make the filter for a search string, over the defaults if these are
wanted. -/
def changesFor (loaded : Settings.Loaded) (query : String) (defaults : Bool) : List Change :=
  [.addDefaults (if defaults then loaded.settings.defaults else []), .addQuery query]

/-- The filter for a search string. -/
def filterFor (loaded : Settings.Loaded) (query : String) (defaults : Bool) : Filter :=
  (Filter.empty loaded.registry).run (changesFor loaded query defaults)

/-- There is a filter for a search string, and it has a request or fails in a way that is
reported. -/
def Answered (loaded : Settings.Loaded) (query : String) (defaults : Bool) (offset size : Int) :
    Prop :=
  ∃ f, buildFilter loaded query defaults = .ok f ∧
    ((∃ q, Request.ofFilter (some loaded.registry) f offset size = .ok q) ∨
      ∃ e, Request.ofFilter (some loaded.registry) f offset size = .error e ∧
        e.category = .query)

/-- A default that can be written, and has a timestamp where it has to be a date; for a field
that is not registered it may be anything. -/
def SoundDefault (r : Registry) (name : String) (v : Value) : Prop :=
  ∀ d, r.find? name = some d → (Filter.defaultParts v).1.isWritable ∧
    (d.type = .date → (Filter.defaultParts v).1.Timed)

/-- Accepted defaults are never refused. -/
theorem addDefaults_of_checked {ds : List (String × Value)}
    (h : ∀ entry ∈ ds, Settings.checkDefault entry.1 entry.2 = .ok ()) (f : Filter) :
    (f.addDefaults ds).2 = none := by
  induction ds generalizing f with
  | nil => rfl
  | cons entry ds ih =>
    obtain ⟨hentry, hds⟩ := List.forall_mem_cons.1 h
    obtain ⟨f', hf', -⟩ :=
      Filter.add_of_not_isRefused (Settings.isRefused_ofDefault f.registry hentry)
    simp only [Proposal.ofDefault] at hf'
    rw [Filter.addDefaults]
    simp only [hf']
    exact ih hds f'

/-- With defaults that pass the check a filter is built unless one of its values cannot be
written. -/
theorem buildFilter_of_checked (h : ∀ entry ∈ loaded.settings.defaults,
    Settings.checkDefault entry.1 entry.2 = .ok ()) :
    buildFilter loaded query defaults = (filterFor loaded query defaults).ifWritable := by
  have hchecked : ∀ entry ∈ if defaults then loaded.settings.defaults else [],
      Settings.checkDefault entry.1 entry.2 = .ok () := by
    split
    · exact h
    · exact List.forall_mem_nil _
  have hnone := addDefaults_of_checked hchecked (Filter.empty loaded.registry)
  unfold buildFilter filterFor changesFor
  cases hdefaults : (Filter.empty loaded.registry).addDefaults
      (if defaults then loaded.settings.defaults else []) with
  | mk f failure =>
    obtain rfl : failure = none := by
      rw [hdefaults] at hnone
      exact hnone
    simp only [Filter.run, List.foldl_cons, List.foldl_nil, Filter.change, hdefaults]

theorem buildFilter_eq (h : Settings.acceptTable path table = .ok loaded) :
    buildFilter loaded query defaults = (filterFor loaded query defaults).ifWritable :=
  buildFilter_of_checked (Settings.acceptTable_eq_ok h).2

/-- For a page that there may be, a filter has a request or fails in a way that is reported
exactly if its query fails only in such ways. -/
theorem request_reported_iff (hoffset : 0 ≤ offset) (hsize : 0 < size)
    {registry : Option Registry} :
    ((∃ q, Request.ofFilter registry f offset size = .ok q) ∨
      ∃ e, Request.ofFilter registry f offset size = .error e ∧ e.category = .query) ↔
      ∀ e, BooleanQuery.ofFilter registry f = .error e → e.category = .query := by
  have hfails {e : Failure} : Request.ofFilter registry f offset size = .error e ↔
      BooleanQuery.ofFilter registry f = .error e := by
    unfold Request.ofFilter
    rw [if_neg (Int.not_lt.2 hoffset), if_neg (Int.not_le.2 hsize), bind_eq_error_iff]
    refine or_iff_left ?_
    rintro ⟨booleanQuery, -, h⟩
    cases h
  simp only [← hfails]
  cases Request.ofFilter registry f offset size with
  | ok q => exact iff_of_true (.inl ⟨q, rfl⟩) fun e he => nomatch he
  | error e =>
    constructor
    · rintro (⟨q, hq⟩ | ⟨e', he', hcategory⟩) e'' he''
      · cases hq
      · obtain rfl := Except.error.inj (he'.symm.trans he'')
        exact hcategory
    · exact fun h => .inr ⟨e, rfl, h e rfl⟩

/-- What a filter stores can be written and is not timeless if the defaults are sound. -/
theorem sound_of_mem_stored {entry : String × Constraint}
    (hsound : ∀ entry ∈ loaded.settings.defaults, SoundDefault loaded.registry entry.1 entry.2)
    (h : entry ∈ (filterFor loaded query defaults).stored) :
    entry.2.value.isWritable ∧ ¬ Timeless loaded.registry entry.1 entry.2 := by
  obtain ⟨change, hchange, p, hp, hcontains, hfield, hvalue⟩ :=
    Filter.exists_of_mem_stored_run h
  have hsafe (hwritable : p.value.isWritable)
      (htimed : ∀ d, loaded.registry.find? entry.1 = some d → d.type = .date → p.value.Timed) :
      entry.2.value.isWritable ∧ ¬ Timeless loaded.registry entry.1 entry.2 := by
    rw [hvalue] at hwritable htimed
    refine ⟨hwritable, ?_⟩
    rintro ⟨d, hd, htype, hnot⟩
    exact hnot (htimed d hd htype)
  rcases List.mem_cons.1 hchange with rfl | hchange
  · obtain ⟨default, hdefault, rfl⟩ := List.mem_map.1 hp
    have hmem : default ∈ loaded.settings.defaults := by
      split at hdefault
      · exact hdefault
      · exact absurd hdefault List.not_mem_nil
    have hname : default.1 = entry.1 := hfield
    have hdefaultSound := hname ▸ hsound default hmem
    obtain ⟨d, hd⟩ := Option.isSome_iff_exists.1 (Registry.find?_isSome_iff.2 hcontains)
    exact hsafe (hdefaultSound d hd).1 fun d' hd' => (hdefaultSound d' hd').2
  · obtain rfl := List.mem_singleton.1 hchange
    rcases Filter.value_of_mem_proposals_addQuery hp with hnull | ⟨s, hs⟩
    · rw [hnull] at hsafe
      exact hsafe rfl fun _ _ _ => trivial
    · rw [hs] at hsafe
      exact hsafe rfl fun _ _ _ => trivial

theorem answered_iff_of_page (h : Settings.acceptTable path table = .ok loaded)
    (hoffset : 0 ≤ offset) (hsize : 0 < size) :
    Answered loaded query defaults offset size ↔
      (∀ entry ∈ (filterFor loaded query defaults).stored, entry.2.value.isWritable) ∧
        ∀ before entry after,
          (filterFor loaded query defaults).stored = before ++ entry :: after →
            Timeless loaded.registry entry.1 entry.2 →
              ∃ b ∈ before, Refused loaded.registry b.1 b.2 := by
  unfold Answered
  rw [buildFilter_eq h, ← Filter.isWritable_iff]
  generalize filterFor loaded query defaults = f
  rcases f.ifWritable_cases with ⟨hwritable, hf⟩ | ⟨v, hwritable, hf⟩
  · have hquery := (request_reported_iff hoffset hsize).trans
      (BooleanQuery.category_of_ofFilter_iff (some loaded.registry)
        (Filter.isWritable_iff.1 hwritable))
    rw [Option.getD_some] at hquery
    rw [hf, and_iff_right hwritable, ← hquery]
    refine ⟨?_, fun hreported => ⟨f, rfl, hreported⟩⟩
    rintro ⟨f', hf', hreported⟩
    obtain rfl := Except.ok.inj hf'
    exact hreported
  · rw [hf]
    refine iff_of_false ?_ fun hand => Bool.false_ne_true (hwritable.symm.trans hand.1)
    rintro ⟨f', hf', -⟩
    cases hf'

/-- With accepted settings a search string ends in a request or in a failure that is reported
exactly if all values of its filter can be written and every constraint on a date without a
timestamp stands behind one that is refused; so it always does if the defaults are sound. -/
theorem answered_iff (h : Settings.acceptTable path table = .ok loaded) (query : String)
    (defaults : Bool) (hoffset : 0 ≤ offset) {size : Option Int} (hsize : ∀ n ∈ size, 0 < n) :
    (Answered loaded query defaults offset (size.getD loaded.settings.pageSize) ↔
      (∀ entry ∈ (filterFor loaded query defaults).stored, entry.2.value.isWritable) ∧
        ∀ before entry after,
          (filterFor loaded query defaults).stored = before ++ entry :: after →
            Timeless loaded.registry entry.1 entry.2 →
              ∃ b ∈ before, Refused loaded.registry b.1 b.2) ∧
    ((∀ entry ∈ loaded.settings.defaults, SoundDefault loaded.registry entry.1 entry.2) →
      Answered loaded query defaults offset (size.getD loaded.settings.pageSize)) := by
  have hpage : 0 < size.getD loaded.settings.pageSize := by
    cases size with
    | none => exact (Settings.acceptTable_eq_ok h).1
    | some n => exact hsize n rfl
  refine ⟨answered_iff_of_page h hoffset hpage, fun hsound => ?_⟩
  refine (answered_iff_of_page h hoffset hpage).2 ⟨fun entry hentry => ?_, ?_⟩
  · exact (sound_of_mem_stored hsound hentry).1
  · intro before entry after hsplit htimeless
    have hmem : entry ∈ (filterFor loaded query defaults).stored :=
      hsplit ▸ List.mem_append_right before List.mem_cons_self
    exact absurd htimeless (sound_of_mem_stored hsound hmem).2

/-- The table of settings with one field of dates and a default for it. -/
def datedTable (v : Value) : List (String × Value) :=
  [("fields", .map [("created", .map [("type", .text "date")])]),
    ("defaults", .map [("created", v)])]

/-- What becomes of this table. -/
def datedSettings (v : Value) : Settings.Loaded where
  settings := { Settings.standard with
    fields := [("created", .map [("type", .text "date")])]
    defaults := [("created", v)] }
  registry := ⟨[("created", ⟨["created"], .date, by decide⟩)], by decide⟩
  warnings := ["No CloudSearch endpoint configured (cloudsearch.search_endpoint)"]

/-- A default with a whole part is a date. -/
theorem answered_iff_halfPastOne :
    Settings.acceptTable none (datedTable (.float (.finite false 3 (-1)))) =
      .ok (datedSettings (.float (.finite false 3 (-1)))) ∧
    Answered (datedSettings (.float (.finite false 3 (-1)))) "x" true 0 10 := by
  have hloaded : Settings.acceptTable none (datedTable (.float (.finite false 3 (-1)))) =
      .ok (datedSettings (.float (.finite false 3 (-1)))) := by
    rfl
  have hsound : ∀ entry ∈ (datedSettings (.float (.finite false 3 (-1)))).settings.defaults,
      SoundDefault (datedSettings (.float (.finite false 3 (-1)))).registry entry.1 entry.2 :=
    List.forall_mem_singleton.2 fun d _ => ⟨rfl, fun _ => ⟨1, by decide, by decide +kernel⟩⟩
  have hsize : ∀ n ∈ (none : Option Int), 0 < n := nofun
  exact ⟨hloaded, (answered_iff hloaded "x" true (by decide) hsize).2 hsound⟩

/-- A default that is not a number is accepted, but the failure to make it a date is not
reported. -/
theorem not_answered_nan :
    Settings.acceptTable none (datedTable (.float .nan)) = .ok (datedSettings (.float .nan)) ∧
    ¬ Answered (datedSettings (.float .nan)) "x" true 0 10 := by
  refine ⟨rfl, ?_⟩
  have hpart (f : Filter) : f.addQuery "x" = f.addPart ⟨0, [], "x"⟩ := by
    have htokens : Query.tokenize "x" = [⟨0, [], "x"⟩] := by decide +kernel
    rw [Filter.addQuery, htokens]
    rfl
  rintro ⟨f, hf, hreported⟩
  unfold buildFilter at hf
  simp only [hpart] at hf
  obtain rfl := Except.ok.inj hf
  rcases hreported with ⟨q, hq⟩ | ⟨e, he, hcategory⟩
  · cases hq
  · obtain rfl := Except.error.inj he
    cases hcategory

end CommandLine

end FieldedSearch
