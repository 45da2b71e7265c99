-- SUMMARY: With which failure a filter of simple values is refused: that of its page, or of its first faulty constraint.
import FieldedSearch.Proofs.Acceptance

/-!
# Refusals

A request fails with the first thing that is wrong with it. The page is looked at first, the
offset before the size. Then the constraints are translated, group by group in ascending
order, field by field and one after another; so the failure is that of the first constraint
that is faulty by itself (`failure_iff`). With an accepted page and no faulty constraint there
is a request. The groups of a filter are in ascending order whatever changes made it
(`Filter.wellFormed_run`).
-/

namespace FieldedSearch

/-! ## Faulty constraints -/

/-- Null, truth values, whole numbers that can be written, texts and dates. -/
def Value.IsSimple : Value → Prop
  | .null | .bool _ | .text _ | .date _ | .dateTime _ => True
  | .int n => Text.Integer.isWritable n
  | .float _ | .time _ | .list _ | .map _ => False

theorem Value.IsSimple.isWritable {v : Value} (h : v.IsSimple) : v.isWritable := by
  cases v with
  | int n => exact (isWritable_int n).trans h
  | null | bool b | text s | date d | dateTime t => rfl
  | float x | time t | list items | map entries => exact absurd h id

theorem Value.IsSimple.timed {v : Value} (h : v.IsSimple) : v.Timed := by
  cases v with
  | float x => exact absurd h id
  | _ => trivial

namespace BooleanQuery

variable {r : Registry} {field : String} {c : Constraint} {v : Value} {type : ValueType}
  {e : Failure}

/-- A text that is not blank, but neither a number nor a date. -/
def Undated (s : List Char) : Prop :=
  Text.trim s ≠ [] ∧ Text.Integer.read? (Text.trim s) = none ∧
    Iso8601.read? (Text.trim s) = none

/-- What can be wrong with a constraint by itself. -/
inductive Faulty (r : Registry) (field : String) (c : Constraint) : Failure → Prop
  | unmapped (h : r.find? field = none) : Faulty r field c (.unmappedField field)
  | unsupported (d : Descriptor) (hd : r.find? field = some d) (htype : d.type = .text)
      (hrange : c.comparison.isRange) :
      Faulty r field c (.unsupportedComparison field c.comparison .text)
  | invalid (d : Descriptor) (hd : r.find? field = some d) (htype : d.type = .date) (s : String)
      (hvalue : c.value = .text s) (hs : Undated s.toList) :
      Faulty r field c (.invalidDate field (String.ofList (Text.trim s.toList)))

theorem textTimestamp_eq_error_iff {s : List Char} : textTimestamp field s = .error e ↔
    Undated s ∧ e = .invalidDate field (String.ofList (Text.trim s)) := by
  simp only [textTimestamp, Undated]
  split
  · next hblank => exact iff_of_false (fun h => by cases h) fun h => h.1.1 hblank
  · next hblank =>
    split
    · next n hn => exact iff_of_false (fun h => by cases h) fun h => by rw [hn] at h; cases h.1.2.1
    · next hn =>
      split
      · next t ht => exact iff_of_false (fun h => by cases h) fun h => by rw [ht] at h; cases h.1.2.2
      · next ht =>
        constructor
        · intro h
          exact ⟨⟨hblank, hn, ht⟩, (Except.error.inj h).symm⟩
        · rintro ⟨-, rfl⟩
          rfl

/-- Of the simple values only texts may have no timestamp. -/
theorem timestamp_eq_error_iff (hv : v.IsSimple) : timestamp field v = .error e ↔
    ∃ s, v = .text s ∧ Undated s.toList ∧
      e = .invalidDate field (String.ofList (Text.trim s.toList)) := by
  cases v with
  | text s =>
    rw [timestamp_text, textTimestamp_eq_error_iff]
    constructor
    · intro h
      exact ⟨s, rfl, h⟩
    · rintro ⟨s', hs, h⟩
      obtain rfl := Value.text.inj hs
      exact h
  | null | bool b | int n | date d | dateTime t =>
    refine iff_of_false (fun h => by cases h) ?_
    rintro ⟨s, hs, -⟩
    cases hs
  | float x | time t | list items | map entries => exact absurd hv id

/-- A simple value is prepared unless it is to be a date and has no timestamp. -/
theorem prepare_eq_error_iff (hv : v.IsSimple) : prepare field v type = .error e ↔
    type = .date ∧ timestamp field v = .error e := by
  unfold prepare
  cases type with
  | text | numeric =>
    refine iff_of_false ?_ fun h => by cases h.1
    rw [reduced, ok_bind, if_pos hv.isWritable]
    · intro h
      cases h
    · intro h
      cases h
  | date =>
    rw [reduced]
    cases ht : timestamp field v with
    | error e' =>
      constructor
      · intro h
        exact ⟨rfl, congrArg Except.error (Except.error.inj h)⟩
      · rintro ⟨-, h⟩
        exact congrArg Except.error (Except.error.inj h)
    | ok t =>
      have hwritable : (t.elim Value.null Value.int).isWritable := by
        cases t with
        | none => rfl
        | some n =>
          exact (Value.isWritable_int n).trans (isWritable_of_timestamp hv.isWritable hv.timed ht)
      refine iff_of_false ?_ fun h => by cases h.2
      rw [Except.map, ok_bind, if_pos hwritable]
      intro h
      cases h

theorem fieldExpression_range {physical value : String} {comparison : Comparison}
    (hrange : comparison.isRange) (htype : type = .text) :
    fieldExpression field physical comparison type value =
      .error (.unsupportedComparison field comparison .text) := by
  subst htype
  cases comparison with
  | greater | greaterOrEqual | less | lessOrEqual => rfl
  | equals | notEquals | like | notLike => cases hrange

/-- A constraint with a simple value has no expression exactly if it is faulty. -/
theorem expression_eq_error_iff (hv : c.value.IsSimple) :
    expression (some r) field c = .error e ↔ Faulty r field c e := by
  constructor
  · intro h
    cases untranslatable_of_expression h with
    | unmapped hr => exact .unmapped hr
    | unprepared d hd _ h =>
      obtain ⟨htype, h⟩ := (prepare_eq_error_iff hv).1 h
      obtain ⟨s, hvalue, hs, rfl⟩ := (timestamp_eq_error_iff hv).1 h
      exact .invalid d hd htype s hvalue hs
    | unsupported d hd htype hrange => exact .unsupported d hd htype hrange
  · intro h
    unfold expression
    cases h with
    | unmapped hr => rw [descriptor, Option.bind_some, hr]; rfl
    | unsupported d hd htype hrange =>
      rw [descriptor_eq_ok_iff.2 hd, ok_bind]
      cases hvalue : prepare field c.value d.type with
      | error e' => cases htype.symm.trans ((prepare_eq_error_iff hv).1 hvalue).1
      | ok value =>
        obtain ⟨name, names, hnames⟩ := List.exists_cons_of_ne_nil d.nonempty
        rw [ok_bind, hnames, List.mapM_cons, fieldExpression_range hrange htype]
        rfl
    | invalid d hd htype s hvalue hs =>
      have htimestamp : timestamp field c.value =
          .error (.invalidDate field (String.ofList (Text.trim s.toList))) :=
        (timestamp_eq_error_iff hv).2 ⟨s, hvalue, hs, rfl⟩
      rw [descriptor_eq_ok_iff.2 hd, ok_bind, (prepare_eq_error_iff hv).2 ⟨htype, htimestamp⟩]
      rfl

end BooleanQuery

/-! ## The first constraint -/

/-- A member of lists one after another is a member of one of them, and what stands in front of
it is the front of this one behind the lists before. -/
theorem exists_of_flatMap_eq_append_cons {α β : Type} {l : α → List β} {xs : List α}
    {before after : List β} {b : β} (h : xs.flatMap l = before ++ b :: after) :
    ∃ xs₁ x xs₂ front rest, xs = xs₁ ++ x :: xs₂ ∧ l x = front ++ b :: rest ∧
      before = xs₁.flatMap l ++ front := by
  induction xs generalizing before with
  | nil => cases before <;> cases h
  | cons x xs ih =>
    have hskip (front : List β) (hfront : before = l x ++ front)
        (h : xs.flatMap l = front ++ b :: after) :
        ∃ xs₁ y xs₂ front rest, x :: xs = xs₁ ++ y :: xs₂ ∧ l y = front ++ b :: rest ∧
          before = xs₁.flatMap l ++ front := by
      obtain ⟨xs₁, y, xs₂, front', rest, rfl, hy, rfl⟩ := ih h
      exact ⟨x :: xs₁, y, xs₂, front', rest, rfl, hy, by
        rw [hfront, List.flatMap_cons, List.append_assoc]⟩
    rw [List.flatMap_cons] at h
    rcases List.append_eq_append_iff.1 h with ⟨front, hfront, h⟩ | ⟨rest, hx, h⟩
    · exact hskip front hfront h
    · cases rest with
      | nil => exact hskip [] (by simpa using hx.symm) h.symm
      | cons b' rest =>
        obtain ⟨rfl, -⟩ := List.cons.inj h
        exact ⟨[], x, xs, before, rest, rfl, hx, rfl⟩

namespace Filter

variable {f : Filter} {P : String → Constraint → Prop} {field : String} {c : Constraint}

/-- The first constraint with a property, by ascending groups, then by the order of fields, then
by that of the constraints on a field. -/
inductive First (f : Filter) (P : String → Constraint → Prop) (field : String) (c : Constraint) :
    Prop
  | intro (group : Int) (front rest : FieldConstraints) (before after : List Constraint)
      (hgroup : (group, front ++ (field, before ++ c :: after) :: rest) ∈ f.groups)
      (hc : P field c)
      (hbefore : ∀ b ∈ before, ¬ P field b)
      (hfront : ∀ entry ∈ front, ∀ b ∈ entry.2, ¬ P entry.1 b)
      (hlower : ∀ g ∈ f.groups, g.1 < group → ∀ entry ∈ g.2, ∀ b ∈ entry.2, ¬ P entry.1 b)

theorem stored_append_cons (front rest : FieldConstraints) (before after : List Constraint) :
    BooleanQuery.stored (front ++ (field, before ++ c :: after) :: rest) =
      BooleanQuery.stored front ++ before.map (field, ·) ++
        (field, c) :: (after.map (field, ·) ++ BooleanQuery.stored rest) := by
  simp only [BooleanQuery.stored, List.flatMap_append, List.flatMap_cons, List.map_append,
    List.map_cons, List.append_assoc, List.cons_append]

/-- The first constraint is the first one stored. -/
theorem first_iff (hf : f.groups.Ordered) : f.First P field c ↔
    ∃ before after, f.stored = before ++ (field, c) :: after ∧
      (∀ b ∈ before, ¬ P b.1 b.2) ∧ P field c := by
  unfold Groups.Ordered Groups.numbers at hf
  constructor
  · rintro ⟨group, front, rest, before, after, hgroup, hc, hbefore, hfront, hlower⟩
    obtain ⟨lower, higher, hgroups⟩ := List.append_of_mem hgroup
    rw [hgroups, List.map_append, List.pairwise_append] at hf
    refine ⟨lower.flatMap (fun g => BooleanQuery.stored g.2) ++
      (BooleanQuery.stored front ++ before.map (field, ·)),
      after.map (field, ·) ++ BooleanQuery.stored rest ++
        higher.flatMap fun g => BooleanQuery.stored g.2, ?_, ?_, hc⟩
    · unfold stored
      rw [hgroups, List.flatMap_append, List.flatMap_cons, stored_append_cons]
      simp only [List.append_assoc, List.cons_append]
    · simp only [List.forall_mem_append, List.forall_mem_flatMap, List.forall_mem_map,
        BooleanQuery.forall_mem_stored_iff (P := fun name b => ¬ P name b)]
      refine ⟨fun g hg => ?_, hfront, hbefore⟩
      have hlt := hf.2.2 g.1 (List.mem_map_of_mem hg) group List.mem_cons_self
      exact hlower g (hgroups ▸ List.mem_append_left _ hg) hlt
  · rintro ⟨before, after, h, hbefore, hc⟩
    obtain ⟨lower, ⟨group, fields⟩, higher, _, _, hgroups, hfields, rfl⟩ :=
      exists_of_flatMap_eq_append_cons h
    obtain ⟨front, ⟨name, cs⟩, rest, _, _, rfl, hcs, rfl⟩ :=
      exists_of_flatMap_eq_append_cons hfields
    obtain ⟨before, _, rfl, rfl, hrest⟩ := List.map_eq_append_iff.1 hcs
    obtain ⟨c', after, rfl, hsame, -⟩ := List.map_eq_cons_iff.1 hrest
    obtain ⟨rfl, rfl⟩ := Prod.mk.inj hsame
    obtain ⟨hlower, hbefore⟩ := List.forall_mem_append.1 hbefore
    obtain ⟨hfront, hbefore⟩ := List.forall_mem_append.1 hbefore
    rw [hgroups, List.map_append, List.pairwise_append, List.map_cons, List.pairwise_cons] at hf
    refine .intro group front rest before after ?_ hc
      (fun b hb => hbefore (name, b) (List.mem_map_of_mem hb))
      ((BooleanQuery.forall_mem_stored_iff (P := fun name b => ¬ P name b)).1 hfront) ?_
    · rw [hgroups]
      exact List.mem_append_right lower List.mem_cons_self
    · intro g hg hlt
      rw [hgroups] at hg
      rcases List.mem_append.1 hg with hg | hg
      · exact (BooleanQuery.forall_mem_stored_iff (P := fun name b => ¬ P name b)).1
          (List.forall_mem_flatMap.1 hlower g hg)
      · rcases List.mem_cons.1 hg with rfl | hg
        · exact absurd hlt (Int.lt_irrefl _)
        · exact absurd hlt (Int.lt_asymm (hf.2.1.1 g.1 (List.mem_map_of_mem hg)))

end Filter

/-! ## The failure of a request -/

/-- Whether a registry leaves a constraint without an expression. -/
def BooleanQuery.IsFaulty (r : Registry) (field : String) (c : Constraint) : Prop :=
  ∃ e, Faulty r field c e

/-- The values of a filter are simple. -/
def Filter.IsSimple (f : Filter) : Prop :=
  ∀ g ∈ f.groups, ∀ entry ∈ g.2, ∀ c ∈ entry.2, c.value.IsSimple

theorem Filter.forall_mem_stored_iff {f : Filter} {P : String → Constraint → Prop} :
    (∀ b ∈ f.stored, P b.1 b.2) ↔
      ∀ g ∈ f.groups, ∀ entry ∈ g.2, ∀ c ∈ entry.2, P entry.1 c := by
  unfold stored
  rw [List.forall_mem_flatMap]
  exact forall₂_congr fun g _ => BooleanQuery.forall_mem_stored_iff

namespace BooleanQuery

variable {f : Filter} {registry : Option Registry} {r : Registry} {e : Failure}

theorem exists_expression_iff {b : String × Constraint} (hb : b.2.value.IsSimple) :
    (∃ s, expression (some r) b.1 b.2 = .ok s) ↔ ¬ IsFaulty r b.1 b.2 := by
  constructor
  · rintro ⟨s, hs⟩ ⟨e, he⟩
    cases hs.symm.trans ((expression_eq_error_iff hb).2 he)
  · intro h
    cases hs : expression (some r) b.1 b.2 with
    | ok s => exact ⟨s, rfl⟩
    | error e => exact absurd ⟨e, (expression_eq_error_iff hb).1 hs⟩ h

/-- The boolean query of a filter fails with its first faulty constraint. -/
theorem ofFilter_eq_error_iff_first (hf : f.groups.Ordered) (hvalues : f.IsSimple) :
    ofFilter registry f = .error e ↔
      ∃ field c, f.First (IsFaulty (registry.getD f.registry)) field c ∧
        Faulty (registry.getD f.registry) field c e := by
  have hstored : ∀ b ∈ f.stored, b.2.value.IsSimple :=
    (Filter.forall_mem_stored_iff (P := fun _ c => c.value.IsSimple)).2 hvalues
  rw [ofFilter_eq_error_iff]
  constructor
  · rintro ⟨before, ⟨field, c⟩, after, h, hbefore, hc⟩
    rw [h] at hstored
    obtain ⟨hsimple, hrest⟩ := List.forall_mem_append.1 hstored
    have hfaulty := (expression_eq_error_iff (hrest _ List.mem_cons_self)).1 hc
    refine ⟨field, c, (Filter.first_iff hf).2 ⟨before, after, h, fun b hb => ?_, e, hfaulty⟩,
      hfaulty⟩
    exact (exists_expression_iff (hsimple b hb)).1 (hbefore b hb)
  · rintro ⟨field, c, hfirst, hc⟩
    obtain ⟨before, after, h, hbefore, -⟩ := (Filter.first_iff hf).1 hfirst
    rw [h] at hstored
    obtain ⟨hsimple, hrest⟩ := List.forall_mem_append.1 hstored
    refine ⟨before, (field, c), after, h, fun b hb => ?_, ?_⟩
    · exact (exists_expression_iff (hsimple b hb)).2 (hbefore b hb)
    · exact (expression_eq_error_iff (hrest _ List.mem_cons_self)).2 hc

/-- A filter has a query unless one of its constraints is faulty. -/
theorem exists_ofFilter_iff (registry : Option Registry) (hvalues : f.IsSimple) :
    (∃ q, ofFilter registry f = .ok q) ↔ ∀ g ∈ f.groups, ∀ entry ∈ g.2, ∀ c ∈ entry.2,
      ¬ IsFaulty (registry.getD f.registry) entry.1 c := by
  have hstored : ∀ b ∈ f.stored, b.2.value.IsSimple :=
    (Filter.forall_mem_stored_iff (P := fun _ c => c.value.IsSimple)).2 hvalues
  rw [← Filter.forall_mem_stored_iff (P := fun field c =>
    ¬ IsFaulty (registry.getD f.registry) field c)]
  constructor
  · rintro ⟨q, hq⟩ b hb
    have hexpressions : ∃ exprs, (f.stored.mapM fun b =>
        expression (some (registry.getD f.registry)) b.1 b.2) = .ok exprs := by
      cases h : f.stored.mapM fun b => expression (some (registry.getD f.registry)) b.1 b.2 with
      | ok exprs => exact ⟨exprs, rfl⟩
      | error e => cases hq.symm.trans (ofFilter_eq_error_iff.2 (mapM_eq_error_iff.1 h))
    exact (exists_expression_iff (hstored b hb)).1 (exists_mapM_eq_ok_iff.1 hexpressions b hb)
  · intro h
    cases hq : ofFilter registry f with
    | ok q => exact ⟨q, rfl⟩
    | error e =>
      obtain ⟨before, b, after, hsplit, -, hb⟩ := ofFilter_eq_error_iff.1 hq
      have hmem : b ∈ f.stored := hsplit ▸ List.mem_append_right before List.mem_cons_self
      exact absurd ⟨e, (expression_eq_error_iff (hstored b hmem)).1 hb⟩ (h b hmem)

end BooleanQuery

namespace Request

open BooleanQuery

variable {f : Filter} {registry : Option Registry} {offset size : Int} {e : Failure}

theorem ofFilter_of_neg (hoffset : offset < 0) :
    ofFilter registry f offset size = .error (.negativeOffset offset) := if_pos hoffset

theorem ofFilter_of_nonpos (hoffset : 0 ≤ offset) (hsize : size ≤ 0) :
    ofFilter registry f offset size = .error (.nonPositivePageSize size) :=
  (if_neg (Int.not_lt.2 hoffset)).trans (if_pos hsize)

/-- For a page that there may be, the query decides. -/
theorem ofFilter_eq_error_iff_of_page (hoffset : 0 ≤ offset) (hsize : 0 < size) :
    ofFilter registry f offset size = .error e ↔ BooleanQuery.ofFilter registry f = .error e := by
  unfold ofFilter
  rw [if_neg (Int.not_lt.2 hoffset), if_neg (Int.not_le.2 hsize)]
  refine bind_eq_error_iff.trans (or_iff_left ?_)
  rintro ⟨query, -, h⟩
  cases h

theorem exists_ofFilter_iff_of_page (hoffset : 0 ≤ offset) (hsize : 0 < size) :
    (∃ q, ofFilter registry f offset size = .ok q) ↔
      ∃ query, BooleanQuery.ofFilter registry f = .ok query := by
  unfold ofFilter
  rw [if_neg (Int.not_lt.2 hoffset), if_neg (Int.not_le.2 hsize), exists_bind_eq_ok_iff]
  exact exists_congr fun query => and_iff_left ⟨_, rfl⟩

/-- A request is refused for its offset if this is negative, else for the size of its page if
this is not positive, else for its first faulty constraint; and for nothing else. Fields are
looked up in the registry that is given, if one is, and else in that of the filter. -/
theorem failure_iff (hf : f.groups.Ordered) (hvalues : f.IsSimple) (registry : Option Registry)
    (offset size : Int) :
    (∀ e, ofFilter registry f offset size = .error e ↔
      offset < 0 ∧ e = .negativeOffset offset ∨
      0 ≤ offset ∧ size ≤ 0 ∧ e = .nonPositivePageSize size ∨
      0 ≤ offset ∧ 0 < size ∧
        ∃ field c, f.First (IsFaulty (registry.getD f.registry)) field c ∧
          Faulty (registry.getD f.registry) field c e) ∧
    ((∃ q, ofFilter registry f offset size = .ok q) ↔
      0 ≤ offset ∧ 0 < size ∧ ∀ g ∈ f.groups, ∀ entry ∈ g.2, ∀ c ∈ entry.2,
        ¬ IsFaulty (registry.getD f.registry) entry.1 c) := by
  constructor
  · intro e
    constructor
    · intro h
      rcases Int.lt_or_le offset 0 with hoffset | hoffset
      · rw [ofFilter_of_neg hoffset] at h
        exact .inl ⟨hoffset, (Except.error.inj h).symm⟩
      rcases Int.lt_or_le 0 size with hsize | hsize
      · have hquery := (ofFilter_eq_error_iff_of_page hoffset hsize).1 h
        exact .inr (.inr ⟨hoffset, hsize, (ofFilter_eq_error_iff_first hf hvalues).1 hquery⟩)
      · rw [ofFilter_of_nonpos hoffset hsize] at h
        exact .inr (.inl ⟨hoffset, hsize, (Except.error.inj h).symm⟩)
    · rintro (⟨hoffset, rfl⟩ | ⟨hoffset, hsize, rfl⟩ | ⟨hoffset, hsize, hfirst⟩)
      · exact ofFilter_of_neg hoffset
      · exact ofFilter_of_nonpos hoffset hsize
      · exact (ofFilter_eq_error_iff_of_page hoffset hsize).2
          ((ofFilter_eq_error_iff_first hf hvalues).2 hfirst)
  · constructor
    · rintro ⟨q, hq⟩
      obtain ⟨hoffset, hsize, query, hquery, -⟩ := ofFilter_eq_ok hq
      exact ⟨hoffset, hsize, (exists_ofFilter_iff registry hvalues).1 ⟨query, hquery⟩⟩
    · rintro ⟨hoffset, hsize, h⟩
      exact (exists_ofFilter_iff_of_page hoffset hsize).2
        ((exists_ofFilter_iff registry hvalues).2 h)

/-- Two visits that have no date yet, the earlier group added last. -/
def vagueVisits : Filter :=
  (Filter.empty Filter.visits).run
    [.add (.text "day") (.text "soon") (.text ":") false 2,
      .add (.text "guests") (.int 2) (.text ">") false 1,
      .add (.text "day") (.text " later ") (.text ":") false 1]

theorem failure_iff_vagueVisits :
    vagueVisits.groups.Ordered ∧ vagueVisits.IsSimple ∧
      ofFilter none vagueVisits 0 10 = .error (.invalidDate "day" "later") := by
  have hf : vagueVisits.groups.Ordered := (Filter.wellFormed_run Filter.visits _).ordered
  have hgroups : vagueVisits.groups =
      [(1, [("guests", [⟨.int 2, .greater, false⟩]), ("day", [⟨.text " later ", .equals, false⟩])]),
        (2, [("day", [⟨.text "soon", .equals, false⟩])])] := by
    rfl
  have htwo : Value.IsSimple (.int 2) := by
    change Text.Integer.isWritable 2 = true
    decide +kernel
  have hvalues : vagueVisits.IsSimple := by
    unfold Filter.IsSimple
    rw [hgroups]
    simp only [List.forall_mem_cons, List.not_mem_nil, false_imp_iff, implies_true, and_true]
    exact ⟨⟨htwo, trivial⟩, trivial⟩
  have hundated : BooleanQuery.Undated " later ".toList := by
    unfold Undated
    decide +kernel
  have hlater : Faulty Filter.visits "day" ⟨.text " later ", .equals, false⟩
      (.invalidDate "day" "later") :=
    .invalid ⟨["day"], .date, by decide⟩ rfl rfl " later " rfl hundated
  have hguests : ¬ IsFaulty Filter.visits "guests" ⟨.int 2, .greater, false⟩ := by
    have hexpression : expression (some Filter.visits) "guests" ⟨.int 2, .greater, false⟩ =
        .ok "guests:2.." :=
      eq_ok_of_toOption (by decide +kernel)
    exact (exists_expression_iff (b := ("guests", ⟨.int 2, .greater, false⟩)) htwo).1
      ⟨_, hexpression⟩
  have hfirst : vagueVisits.First (IsFaulty Filter.visits) "day"
      ⟨.text " later ", .equals, false⟩ := by
    refine .intro 1 [("guests", [⟨.int 2, .greater, false⟩])] [] [] [] ?_ ⟨_, hlater⟩
      (List.forall_mem_nil _) ?_ ?_
    · rw [hgroups]
      exact List.mem_cons_self
    · simpa using hguests
    · rw [hgroups]
      simp
  exact ⟨hf, hvalues, ((failure_iff hf hvalues none 0 10).1 _).2
    (.inr (.inr ⟨by decide, by decide, "day", _, hfirst, hlater⟩))⟩

end Request

end FieldedSearch
