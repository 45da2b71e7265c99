-- SUMMARY: What every run of changes keeps of a filter.
import FieldedSearch.Proofs.Reading

/-!
# Runs of changes

Whatever a change is called, it comes down to a few steps: a constraint is put in, the
keywords or the sort are set, or constraints are removed. What none of these steps
destroys holds after every run (`Kept.run`), and by that a filter stays well formed.
-/

namespace FieldedSearch.Filter

open Query

variable {f : Filter} {r : Registry}

/-! ## Steps -/

theorem registry_direct (f : Filter) (field : String) (value : Value) :
    (f.direct field value).registry = f.registry := by
  unfold direct
  split
  · split
    · split <;> rfl
    · rfl
  · split <;> rfl

theorem registry_insert (f : Filter) (field : String) (c : Constraint) (group : Int) :
    (f.insert field c group).registry = f.registry := by
  unfold insert
  split
  · rfl
  · exact registry_direct _ _ _

/-- A property of filters that no step of a change destroys. -/
structure Kept (P : Filter → Prop) : Prop where
  insert : ∀ f field c group, 0 ≤ group → P f → P (f.insert field c group)
  setKeywords : ∀ f keywords, P f → P (f.setKeywords keywords)
  setSort : ∀ f field order, f.registry.contains field → P f →
    P { f with sortField := some field, sortOrder := order }
  clearSort : ∀ f, P f → P f.clearSort
  clear : ∀ f, P f → P f.clear
  clearGroup : ∀ f group, P f → P (f.clearGroup group)

variable {P : Filter → Prop}

/-- Where a constraint is accepted, it is put in; the number of its group matters only
for a registered field, and that is not negative then. -/
theorem Kept.add (hP : Kept P) {f' : Filter} {field : String} {value comparison : Value}
    {isDefault : Bool} {group : Int} (hf : P f)
    (h : f.add field value comparison isDefault group = .ok f') : P f' := by
  unfold Filter.add at h
  split at h
  · split at h
    · simp at h
    · next c _ =>
      split at h
      · simp at h
      · next hg =>
        obtain rfl := Except.ok.inj h
        exact hP.insert _ _ _ _ (by omega) hf
  · next hr =>
    obtain rfl := Except.ok.inj h
    have := hP.insert f field ⟨value, .equals, isDefault⟩ 0 (Int.le_refl 0) hf
    rwa [Filter.insert, if_neg hr] at this

theorem Kept.addDefaults (hP : Kept P) (hf : P f) (defaults : List (String × Value)) :
    P (f.addDefaults defaults).1 := by
  induction defaults generalizing f with
  | nil => exact hf
  | cons d rest ih =>
    obtain ⟨field, entry⟩ := d
    rw [Filter.addDefaults]
    split
    split
    · next h => exact ih (hP.add hf h)
    · exact hf

theorem Kept.addQuery (hP : Kept P) (hf : P f) (query : String) : P (f.addQuery query) := by
  have hterms : ∀ (f : Filter) (ts : List (Nat × Term)), P f → P (f.addTerms ts) := by
    intro f ts hf
    induction ts generalizing f with
    | nil => exact hf
    | cons p ts ih => exact ih _ (hP.insert _ _ _ _ (Int.natCast_nonneg p.1) hf)
  rw [addQuery_eq]
  exact hP.setKeywords _ _ (hterms f _ hf)

/-- What no step destroys, no change destroys, whether or not it is refused. -/
theorem Kept.change (hP : Kept P) (hf : P f) (c : Change) : P (f.change c).1 := by
  cases c with
  | add field value comparison isDefault group =>
    simp only [Filter.change, replaceBy]
    split
    · next h =>
      cases field with
      | text name => exact hP.add hf h
      | _ => obtain rfl := Except.ok.inj h; exact hf
    · exact hf
  | addDefaults defaults => exact hP.addDefaults hf defaults
  | addQuery query => exact hP.addQuery hf query
  | setKeywords keywords => exact hP.setKeywords f keywords hf
  | setSort field order =>
    simp only [Filter.change, replaceBy]
    split
    · next h =>
      cases field with
      | text name =>
        simp only [setSortBy, Filter.setSort] at h
        split at h
        · next hr =>
          obtain rfl := Except.ok.inj h
          exact hP.setSort f name _ hr hf
        · simp at h
      | _ => simp [setSortBy] at h
    · exact hf
  | clearSort => exact hP.clearSort f hf
  | clear => exact hP.clear f hf
  | clearGroup group => exact hP.clearGroup f group hf

/-- What no step destroys holds after every run. -/
theorem Kept.run (hP : Kept P) (hf : P f) (changes : List Change) : P (f.run changes) := by
  induction changes generalizing f with
  | nil => exact hf
  | cons c changes ih => exact ih (hP.change hf c)

theorem registry_run (f : Filter) (changes : List Change) :
    (f.run changes).registry = f.registry := by
  have hkept : Kept fun g => g.registry = f.registry := by
    constructor
    case insert => intro g field c group _ hg; rw [registry_insert, hg]
    all_goals intros; assumption
  exact hkept.run rfl changes

/-! ## Well-formed filters -/

/-- The filters that there are: tables of groups with numbers from 0, in which only
registered fields are constrained, each by something, and a registered field to sort by. -/
structure WellFormed (f : Filter) : Prop extends Keyed f where
  nonneg : ∀ group < 0, f.groups.fields group = []
  registered : ∀ group, ∀ name ∈ f.fieldNames group, f.registry.contains name
  constrained : ∀ group, ∀ name ∈ f.fieldNames group, f.constraints name group ≠ []
  sorted : ∀ name ∈ f.sortField, f.registry.contains name

theorem wellFormed_empty (r : Registry) : (empty r).WellFormed where
  ordered := Groups.ordered_nil
  distinct _ := List.nodup_nil
  nonneg _ _ := rfl
  registered _ _ h := by simp [fieldNames, empty, Groups.fields, Entries.names] at h
  constrained _ _ h := by simp [fieldNames, empty, Groups.fields, Entries.names] at h
  sorted _ h := by simp [empty] at h

theorem groups_direct (f : Filter) (field : String) (value : Value) :
    (f.direct field value).groups = f.groups := by
  unfold direct
  split
  · split
    · split <;> rfl
    · rfl
  · split <;> rfl

private theorem sorted_direct (h : ∀ name ∈ f.sortField, f.registry.contains name)
    (field : String) (value : Value) :
    ∀ name ∈ (f.direct field value).sortField, f.registry.contains name := by
  unfold direct
  split
  · split
    · split
      · next hr =>
        intro name hname
        obtain rfl := Option.some.inj hname
        exact hr
      · exact h
    · exact h
  · split <;> exact h

/-- Of a filter with the same groups only the field to sort by is still to be looked at. -/
private theorem WellFormed.of_groups {f' : Filter} (hf : f.WellFormed)
    (hgroups : f'.groups = f.groups) (hregistry : f'.registry = f.registry)
    (hsorted : ∀ name ∈ f'.sortField, f'.registry.contains name) : f'.WellFormed where
  ordered := hgroups ▸ hf.ordered
  distinct := hgroups ▸ hf.distinct
  nonneg := hgroups ▸ hf.nonneg
  registered := by simpa only [fieldNames, hgroups, hregistry] using hf.registered
  constrained := by simpa only [fieldNames, Filter.constraints, hgroups] using hf.constrained
  sorted := hsorted

private theorem WellFormed.direct (hf : f.WellFormed) (field : String) (value : Value) :
    (f.direct field value).WellFormed := by
  apply hf.of_groups (groups_direct f field value) (registry_direct f field value)
  rw [registry_direct]
  exact sorted_direct hf.sorted field value

private theorem addTo_ne_nil (c : Constraint) (cs : List Constraint) : c.addTo cs ≠ [] := by
  simp [Constraint.addTo]

/-- The field of a constraint that is put in is the only one that may be new. -/
private theorem fieldNames_update (hf : f.Keyed) (field : String) (c : Constraint) (group g : Int) :
    (Entries.names ((f.groups.update group (·.add field c)).fields g)).Nodup ∧
      ∀ name ∈ Entries.names ((f.groups.update group (·.add field c)).fields g),
        name ∈ f.fieldNames g ∨ g = group ∧ name = field := by
  have hnodup := hf.distinct g
  rw [Groups.names_update_add hf.ordered]
  split
  · next hnew =>
    refine ⟨List.nodup_append.2 ⟨hnodup, List.pairwise_singleton _ _, ?_⟩, fun name h => ?_⟩
    · rintro a ha b hb rfl
      exact hnew.2 (List.mem_singleton.1 hb ▸ ha)
    · rcases List.mem_append.1 h with h | h
      · exact .inl h
      · exact .inr ⟨hnew.1, List.mem_singleton.1 h⟩
  · exact ⟨hnodup, fun name h => .inl h⟩

private theorem WellFormed.insert (hf : f.WellFormed) {field : String} (c : Constraint)
    {group : Int} (hg : 0 ≤ group) : (f.insert field c group).WellFormed := by
  unfold Filter.insert
  split
  · next hr =>
    have hnames := fieldNames_update hf.toKeyed field c group
    constructor
    case toKeyed => exact ⟨Groups.ordered_update hf.ordered, fun g => (hnames g).1⟩
    case nonneg =>
      intro g hneg
      rw [Groups.fields_update hf.ordered, if_neg (by omega)]
      exact hf.nonneg g hneg
    case registered =>
      intro g name h
      rcases (hnames g).2 name h with h | ⟨-, rfl⟩
      · exact hf.registered g name h
      · exact hr
    case constrained =>
      intro g name h
      rw [Filter.constraints, Groups.constraints_update_add hf.ordered]
      split
      · exact addTo_ne_nil c _
      · next hother =>
        exact hf.constrained g name (((hnames g).2 name h).resolve_right hother)
    case sorted => exact hf.sorted
  · exact hf.direct field c.value

private theorem WellFormed.clearGroup (hf : f.WellFormed) (group : Int) :
    (f.clearGroup group).WellFormed := by
  have hfields (g : Int) : (f.clearGroup group).groups.fields g =
      if g = group then [] else f.groups.fields g :=
    Groups.fields_update hf.ordered g
  have hmem {g : Int} {name : String} (h : name ∈ (f.clearGroup group).fieldNames g) :
      g ≠ group ∧ name ∈ f.fieldNames g := by
    unfold fieldNames at h
    rw [hfields] at h
    split at h
    · simp [Entries.names] at h
    · next hne => exact ⟨hne, h⟩
  constructor
  case toKeyed =>
    refine ⟨Groups.ordered_update hf.ordered, fun g => ?_⟩
    rw [hfields]
    split
    · exact List.nodup_nil
    · exact hf.distinct g
  case nonneg =>
    intro g hg
    rw [hfields, hf.nonneg g hg, ite_self]
  case registered =>
    intro g name h
    exact hf.registered g name (hmem h).2
  case constrained =>
    intro g name h
    rw [Filter.constraints, Groups.constraints, hfields, if_neg (hmem h).1]
    exact hf.constrained g name (hmem h).2
  case sorted => exact hf.sorted

theorem kept_wellFormed : Kept WellFormed where
  insert _ _ c _ hg hf := hf.insert c hg
  setKeywords _ _ hf := hf.of_groups rfl rfl hf.sorted
  setSort _ _ _ hr hf := hf.of_groups rfl rfl fun _ h => Option.some.inj h ▸ hr
  clearSort _ hf := hf.of_groups rfl rfl fun _ h => nomatch h
  clear f hf := (wellFormed_empty f.registry).of_groups rfl rfl hf.sorted
  clearGroup _ group hf := hf.clearGroup group

/-- Every filter that changes make of an empty one is well formed. -/
theorem wellFormed_run (r : Registry) (changes : List Change) :
    ((empty r).run changes).WellFormed :=
  kept_wellFormed.run (wellFormed_empty r) changes

/-! ## Reading a search string into a filter -/

/-- Reading a search string never fails, and it leaves exactly `Added`: behind every field
a comparison is found, and behind that a value, so all texts are read to their ends. -/
theorem change_addQuery (hf : f.Keyed) (query : String) :
    (∀ s w rest, Lexer.field? s = some (.field w, rest) →
      ∃ c t raw u, Lexer.comparison? rest = some (.comparison c, t) ∧
        Lexer.value? t = some (.value raw, u)) ∧
    (∀ s ∈ texts query, Lexer.read s = some (splitTerms s)) ∧
    ∃ f', f.change (.addQuery query) = (f', none) ∧ f.Added query f' := by
  refine ⟨?_, fun s _ => Lexer.read_eq s, f.addQuery query, rfl, added_addQuery hf query⟩
  intro s w rest h
  obtain ⟨c, t, raw, u, hcomparison, hvalue, -⟩ := Lexer.exists_of_field? h
  exact ⟨c, t, raw, u, hcomparison, hvalue⟩

/-- A registry of one field. -/
def ages : Registry := ⟨[("age", ⟨["age"], .numeric, by decide⟩)], by decide⟩

/-- An explicit constraint replaces the default, and the sort is that of the group. -/
theorem change_addQuery_ages :
    ((empty ages).run [.addDefaults [("age", .int 1)]]).Keyed ∧
    ∃ f', ((empty ages).run [.addDefaults [("age", .int 1)]]).change
        (.addQuery "age>3 (sort:age) old sort:x") = (f', none) ∧
      f'.constraints "age" 0 = [⟨.text "3", .greater, false⟩] ∧
      f'.keywords = some "old" ∧ f'.sortField = some "age" := by
  have hf := (wellFormed_run ages [.addDefaults [("age", .int 1)]]).toKeyed
  obtain ⟨-, -, f', h, hadded⟩ := change_addQuery hf "age>3 (sort:age) old sort:x"
  refine ⟨hf, f', h, ?_, ?_, ?_⟩
  · have hage : ages.contains "age" := by decide
    have hterms : termsOf "age>3 (sort:age) old sort:x" 0 =
        [⟨"age", .greater, some "3"⟩, ⟨"sort", .equals, some "x"⟩] := by decide +kernel
    rw [hadded.named 0 "age" hage (by rw [hterms]; decide), hterms]
    rfl
  · have hroot : rootText "age>3 (sort:age) old sort:x" = "old" := by decide +kernel
    rw [hadded.keywords, hroot, if_neg (by decide)]
  · have hchoices : (allTerms "age>3 (sort:age) old sort:x").filterMap
        (sortChoice (empty ages).registry) = ["age"] := by decide +kernel
    rw [hadded.sortField, registry_run, hchoices]
    rfl

end FieldedSearch.Filter
