-- SUMMARY: What every run of changes leaves of a filter: no empty places, defaults last, and only registered fields.
import FieldedSearch.Proofs.Additions
import FieldedSearch.Proofs.Translating

/-!
# Tidy filters

Unless a single group is cleared, which leaves an empty one behind, changes keep a filter
tidy: every group in it has fields, every field has constraints, the defaults among them
last, and all fields and the sort are registered. A tidy filter is translated by its own
registry without a field that is missing in it.
-/

namespace FieldedSearch

/-! ## Defaults last -/

/-- Explicit constraints and behind them defaults. -/
def Constraint.DefaultsLast (cs : List Constraint) : Prop :=
  ∃ explicit defaults, cs = explicit ++ defaults ∧ (∀ c ∈ explicit, c.isDefault = false) ∧
    ∀ c ∈ defaults, c.isDefault = true

/-- The defaults that stand have no explicit constraint behind them. -/
theorem Constraint.defaultsLast_standing (cs : List Constraint) : DefaultsLast (standing cs) := by
  induction cs with
  | nil => exact ⟨[], [], rfl, by simp, by simp⟩
  | cons c cs ih =>
    unfold standing
    split
    · exact ih
    · next hstands =>
      cases hc : c.isDefault with
      | false =>
        obtain ⟨explicit, defaults, hcs, hexplicit, hdefaults⟩ := ih
        rw [hcs]
        exact ⟨c :: explicit, defaults, rfl, List.forall_mem_cons.2 ⟨hc, hexplicit⟩, hdefaults⟩
      | true =>
        have hcs : ∀ d ∈ cs, d.isDefault = true := by simpa [hc] using hstands
        exact ⟨[], c :: standing cs, rfl, by simp,
          List.forall_mem_cons.2 ⟨hc, fun d hd => hcs d ((standing_sublist cs).subset hd)⟩⟩

/-! ## Groups with fields -/

namespace Groups

variable {groups : Groups} {group : Int} {f : FieldConstraints → FieldConstraints}

/-- Every group has fields. -/
def Inhabited (groups : Groups) : Prop := ∀ g ∈ groups, g.2 ≠ []

theorem mem_update {g : Int × FieldConstraints} (h : g ∈ groups.update group f) :
    g ∈ groups ∨ ∃ fields, g = (group, f fields) := by
  induction groups with
  | nil => exact .inr ⟨[], List.mem_singleton.1 h⟩
  | cons e rest ih =>
    obtain ⟨n, fields⟩ := e
    simp only [update] at h
    split at h
    · next hn =>
      rcases List.mem_cons.1 h with rfl | h
      · exact .inr ⟨fields, by rw [hn]⟩
      · exact .inl (List.mem_cons_of_mem _ h)
    · split at h
      · rcases List.mem_cons.1 h with rfl | h
        · exact .inr ⟨[], rfl⟩
        · exact .inl h
      · rcases List.mem_cons.1 h with rfl | h
        · exact .inl List.mem_cons_self
        · exact (ih h).imp_left (List.mem_cons_of_mem _)

theorem add_ne_nil (field : String) (c : Constraint) (fields : FieldConstraints) :
    fields.add field c ≠ [] := by
  unfold FieldConstraints.add
  cases fields with
  | nil => exact List.cons_ne_nil _ _
  | cons e rest =>
    unfold Entries.update
    split <;> exact List.cons_ne_nil _ _

theorem Inhabited.addAll (h : groups.Inhabited) (as : List Addition) :
    (groups.addAll as).Inhabited := by
  induction as generalizing groups with
  | nil => exact h
  | cons a as ih =>
    rw [addAll_cons]
    apply ih
    intro g hg
    rcases mem_update hg with hg | ⟨fields, rfl⟩
    · exact h g hg
    · exact add_ne_nil _ _ _

end Groups

namespace Filter

variable {f : Filter} {group : Int} {field : String} {fields : FieldConstraints}
  {cs : List Constraint} {changes : List Change}

theorem inhabited_run (r : Registry) (h : ∀ group, .clearGroup group ∉ changes) :
    ((empty r).run changes).groups.Inhabited := by
  induction changes using List.reverseRecOn with
  | nil => exact fun g hg => absurd hg List.not_mem_nil
  | append_singleton changes c ih =>
    have hchanges := ih fun group hm => h group (List.mem_append_left _ hm)
    rw [run_concat]
    cases c with
    | clear => exact fun g hg => absurd hg List.not_mem_nil
    | clearGroup group => exact absurd (List.mem_append_right _ List.mem_cons_self) (h group)
    | _ =>
      rw [groups_change _ fun _ => rfl]
      exact hchanges.addAll _

/-! ## Tidy filters -/

/-- What holds of every place in a filter, and of its sort. -/
structure Tidy (f : Filter) : Prop where
  nonneg : ∀ g ∈ f.groups, 0 ≤ g.1
  inhabited : ∀ g ∈ f.groups, g.2 ≠ []
  registered : ∀ g ∈ f.groups, ∀ entry ∈ g.2, f.registry.contains entry.1
  constrained : ∀ g ∈ f.groups, ∀ entry ∈ g.2, entry.2 ≠ []
  defaultsLast : ∀ g ∈ f.groups, ∀ entry ∈ g.2, Constraint.DefaultsLast entry.2
  sorted : ∀ name ∈ f.sortField, f.registry.contains name

theorem constraints_of_mem (hf : f.Keyed) (hg : (group, fields) ∈ f.groups)
    (hentry : (field, cs) ∈ fields) : f.constraints field group = cs := by
  have hfields := Groups.fields_of_mem hf.ordered hg
  have hdistinct := hf.distinct group
  rw [hfields] at hdistinct
  unfold Filter.constraints Groups.constraints
  rw [hfields, Entries.get?_of_mem hdistinct hentry]
  rfl

theorem mem_fieldNames_of_mem (hf : f.Keyed) (hg : (group, fields) ∈ f.groups)
    (hentry : (field, cs) ∈ fields) : field ∈ f.fieldNames group := by
  unfold fieldNames
  rw [Groups.fields_of_mem hf.ordered hg]
  exact List.mem_map.2 ⟨(field, cs), hentry, rfl⟩

theorem tidy_run (r : Registry) (h : ∀ group, .clearGroup group ∉ changes) :
    ((empty r).run changes).Tidy := by
  have hf := wellFormed_run r changes
  have hinhabited := inhabited_run r h
  constructor
  case nonneg =>
    rintro ⟨group, fields⟩ hg
    by_contra hneg
    have hnil := hf.nonneg group (Int.not_le.1 hneg)
    rw [Groups.fields_of_mem hf.ordered hg] at hnil
    exact hinhabited _ hg hnil
  case inhabited => exact hinhabited
  case registered =>
    rintro ⟨group, fields⟩ hg ⟨field, cs⟩ hentry
    exact hf.registered group field (mem_fieldNames_of_mem hf.toKeyed hg hentry)
  case constrained =>
    rintro ⟨group, fields⟩ hg ⟨field, cs⟩ hentry
    rw [← constraints_of_mem hf.toKeyed hg hentry]
    exact hf.constrained group field (mem_fieldNames_of_mem hf.toKeyed hg hentry)
  case defaultsLast =>
    rintro ⟨group, fields⟩ hg ⟨field, cs⟩ hentry
    rw [← constraints_of_mem hf.toKeyed hg hentry, constraints_run]
    exact Constraint.defaultsLast_standing _
  case sorted => exact hf.sorted

/-! ## Requests for tidy filters -/

section Requests

variable {registry : Option Registry} {offset size : Int}

/-- By its own registry no field of a tidy filter is missing. -/
theorem Tidy.ne_unmappedField (hf : f.Tidy) (hregistry : registry.getD f.registry = f.registry)
    (name : String) : Request.ofFilter registry f offset size ≠ .error (.unmappedField name) := by
  intro h
  rcases Request.ofFilter_eq_error h with ⟨-, h⟩ | ⟨-, h⟩ | h
  · cases h
  · cases h
  · obtain ⟨g, hg, entry, hentry, c, -, hc⟩ := BooleanQuery.exists_of_ofFilter_eq_error h
    rw [hregistry, BooleanQuery.Untranslatable.unmapped_iff] at hc
    have hfound := Registry.find?_isSome_iff.2 (hf.registered g hg entry hentry)
    rw [hc.2] at hfound
    cases hfound

theorem Tidy.exists_of_mem_rank (hf : f.Tidy) {q : Request}
    (h : Request.ofFilter registry f offset size = .ok q) {rank : String} (hrank : rank ∈ q.rank) :
    ∃ name, f.registry.contains name ∧ (rank = name ∨ rank = "-" ++ name) := by
  obtain ⟨-, -, booleanQuery, -, rfl⟩ := Request.ofFilter_eq_ok h
  obtain ⟨name, hname, rfl⟩ := Option.map_eq_some_iff.1 hrank
  refine ⟨name, hf.sorted name hname, ?_⟩
  split
  · exact .inr rfl
  · exact .inl String.empty_append

end Requests

/-- After any run of changes that clears no single group, refused ones included, a filter is
tidy. By no registry or its own, no field of it is missing in a request for it, and it is
ranked by nothing or by a registered field, with or without a minus sign. -/
theorem tidy_requests_run (r : Registry) (h : ∀ group, .clearGroup group ∉ changes)
    {registry : Option Registry} (hregistry : registry = none ∨ registry = some r)
    (offset size : Int) :
    ((empty r).run changes).Tidy ∧
    (∀ name, Request.ofFilter registry ((empty r).run changes) offset size ≠
      .error (.unmappedField name)) ∧
    ∀ q, Request.ofFilter registry ((empty r).run changes) offset size = .ok q →
      ∀ rank ∈ q.rank, ∃ name, r.contains name ∧ (rank = name ∨ rank = "-" ++ name) := by
  have hf := tidy_run r h
  have hown : ((empty r).run changes).registry = r := registry_run _ _
  have hsame : registry.getD ((empty r).run changes).registry = ((empty r).run changes).registry := by
    rw [hown]
    rcases hregistry with rfl | rfl <;> rfl
  refine ⟨hf, hf.ne_unmappedField hsame, fun q hq rank hrank => ?_⟩
  rw [← hown]
  exact hf.exists_of_mem_rank hq hrank

/-- Defaults that set the sort, one that an explicit constraint replaces, and two refused
changes. -/
def sortedAges : List Change :=
  [.addDefaults [("age", .int 1), ("sort", .text "age"), ("age", .map [("comparison", .int 2)])],
    .add (.text "age") (.text "3") (.text ">") false 0, .setSort (.int 3) .null,
    .add (.text "age") (.text "4") (.text ":") true 1]

def sortedAgesRequest : Request :=
  ⟨some "(and age:3.. (or age:4))", none, some "-age", 10, 0⟩

theorem tidy_requests_run_sortedAges :
    (∀ group, .clearGroup group ∉ sortedAges) ∧ ((empty ages).run sortedAges).Tidy ∧
    Request.ofFilter (some ages) ((empty ages).run sortedAges) 0 10 = .ok sortedAgesRequest ∧
    ∃ name, ages.contains name ∧ ("-age" = name ∨ "-age" = "-" ++ name) := by
  have hchanges : ∀ group, .clearGroup group ∉ sortedAges := by simp [sortedAges]
  have hq : Request.ofFilter (some ages) ((empty ages).run sortedAges) 0 10 =
      .ok sortedAgesRequest := by
    rfl
  obtain ⟨htidy, -, hrank⟩ := tidy_requests_run ages hchanges (.inr rfl) 0 10
  exact ⟨hchanges, htidy, hq, hrank sortedAgesRequest hq "-age" rfl⟩

end Filter

end FieldedSearch
