-- SUMMARY: A filter that is written and read again: what is restored, and exactly when nothing is lost.
import FieldedSearch.Proofs.Writing

/-!
# Writing and reading

A filter is restored from its search string if its values survive in terms and it is
legible. Then every constraint comes back as an explicit one with a text for its value,
and only the groups without constraints are missing. A filter that was read from a search
string comes back as it is, if its values survive; if one does not, it never does.
-/

namespace FieldedSearch.Filter

open Query

variable {f : Filter} {r : Registry} {group : Int} {field : String} {t : Term}

attribute [ext] Filter

/-! ## Filters that are read -/

theorem added_ofQuery (r : Registry) (query : String) : (empty r).Added query (ofQuery r query) :=
  added_addQuery (wellFormed_empty r).toKeyed query

theorem registry_ofQuery (r : Registry) (query : String) : (ofQuery r query).registry = r :=
  (added_ofQuery r query).registry

/-- The constraints of a filter that is read are the terms in their order. -/
theorem constraints_ofQuery (hr : r.contains field) (query : String) (group : Int) :
    (ofQuery r query).constraints field group =
      ((termsOf query group).filter (·.field = field)).map termConstraint := by
  have hadded := added_ofQuery r query
  by_cases hfield : field ∈ (termsOf query group).map (·.field)
  · exact hadded.named group field hr hfield
  · have hnil : (termsOf query group).filter (·.field = field) = [] := by
      rw [List.filter_eq_nil_iff]
      intro t ht heq
      exact hfield (List.mem_map.2 ⟨t, ht, by simpa using heq⟩)
    rw [hnil]
    exact hadded.unnamed group field fun h => hfield h.2

theorem wellFormed_ofQuery (r : Registry) (query : String) : (ofQuery r query).WellFormed :=
  wellFormed_run r [.addQuery query]

/-- What a filter that is read constrains is stated in the search string. -/
theorem exists_of_mem_constraints_ofQuery {query : String} {c : Constraint}
    (h : c ∈ (ofQuery r query).constraints field group) :
    ∃ t ∈ termsOf query group, t.field = field ∧ termConstraint t = c := by
  have hr : r.contains field := by
    have := (wellFormed_ofQuery r query).registered group field
      (mem_fieldNames_of_mem_constraints h)
    rwa [registry_ofQuery] at this
  rw [constraints_ofQuery hr] at h
  obtain ⟨t, ht, heq⟩ := List.mem_map.1 h
  obtain ⟨hmem, hfield⟩ := List.mem_filter.1 ht
  exact ⟨t, hmem, by simpa using hfield, heq⟩

/-! ## Restored filters -/

/-- A constraint as it is read back: explicit, and its value a text or null. -/
def restoredConstraint (c : Constraint) : Constraint :=
  ⟨c.value.stated.elim .null .text, c.comparison, false⟩

/-- The fields of a group as they are read back. -/
def restoredFields (fields : FieldConstraints) : FieldConstraints :=
  fields.map fun (field, cs) => (field, cs.map restoredConstraint)

/-- A filter as it is read back: without empty groups. -/
def restored (f : Filter) : Filter :=
  { f with groups := (f.groups.filter fun (_, fields) => !fields.isEmpty).map fun (group, fields) =>
      (group, restoredFields fields) }

theorem names_restoredFields (fields : FieldConstraints) :
    Entries.names (restoredFields fields) = Entries.names fields := by
  rw [Entries.names, restoredFields, List.map_map]
  rfl

theorem get?_restoredFields (fields : FieldConstraints) (field : String) :
    Entries.get? (restoredFields fields) field =
      (Entries.get? fields field).map (·.map restoredConstraint) := by
  induction fields with
  | nil => rfl
  | cons e rest ih =>
    obtain ⟨name, cs⟩ := e
    unfold restoredFields
    rw [List.map_cons, ← restoredFields]
    by_cases hname : field = name
    · subst hname
      rw [Entries.get?_cons_self, Entries.get?_cons_self]
      rfl
    · rw [Entries.get?_cons_of_ne hname, Entries.get?_cons_of_ne hname, ih]

theorem ordered_restored (hf : f.groups.Ordered) : f.restored.groups.Ordered := by
  have hnumbers : f.restored.groups.numbers.Sublist f.groups.numbers := by
    rw [Groups.numbers, restored, List.map_map]
    exact List.filter_sublist.map _
  exact hf.sublist hnumbers

theorem fields_restored (hf : f.groups.Ordered) (group : Int) :
    f.restored.groups.fields group = restoredFields (f.groups.fields group) := by
  simp only [restored]
  generalize f.groups = groups at hf ⊢
  induction groups with
  | nil => rfl
  | cons e rest ih =>
    obtain ⟨g, fields⟩ := e
    obtain ⟨hlt, hrest⟩ := Groups.ordered_cons.1 hf
    cases fields with
    | nil =>
      rw [List.filter_cons_of_neg (by simp), ih hrest]
      by_cases hg : group = g
      · subst hg
        rw [Groups.fields_cons_self, Groups.fields_of_not_mem (fun h => Int.lt_irrefl _ (hlt _ h))]
      · rw [Groups.fields_cons_of_ne hg]
    | cons e fields =>
      rw [List.filter_cons_of_pos (by simp), List.map_cons]
      by_cases hg : group = g
      · subst hg
        rw [Groups.fields_cons_self, Groups.fields_cons_self]
      · rw [Groups.fields_cons_of_ne hg, Groups.fields_cons_of_ne hg, ih hrest]

theorem mem_numbers_restored (hf : f.groups.Ordered) :
    group ∈ f.restored.groups.numbers ↔ f.groups.fields group ≠ [] := by
  constructor
  · intro h
    rw [Groups.numbers, restored, List.map_map] at h
    obtain ⟨⟨g, fields⟩, hmem, rfl⟩ := List.mem_map.1 h
    obtain ⟨hmem, hne⟩ := List.mem_filter.1 hmem
    dsimp only [Function.comp_apply]
    rw [Groups.fields_of_mem hf hmem]
    simpa using hne
  · intro h
    by_contra hnot
    have hnil := Groups.fields_of_not_mem hnot
    rw [fields_restored hf] at hnil
    exact h (List.map_eq_nil_iff.1 hnil)

theorem constraints_restored (hf : f.groups.Ordered) (field : String) (group : Int) :
    f.restored.constraints field group = (f.constraints field group).map restoredConstraint := by
  simp only [Filter.constraints, Groups.constraints, fields_restored hf, get?_restoredFields]
  cases Entries.get? (f.groups.fields group) field <;> rfl

theorem fieldNames_restored (hf : f.groups.Ordered) (group : Int) :
    f.restored.fieldNames group = f.fieldNames group := by
  rw [fieldNames, fields_restored hf, names_restoredFields]
  rfl

/-! ## The terms of a written filter -/

private theorem forall_mem_root_textPieces (ts : List Term)
    (h : ∀ t ∈ ts, IsFieldName t.field ∧ Survives t.comparison t.value) :
    (∀ s ∈ (textPieces ts).map Piece.root, Closes s ∧ ∀ a ∈ left s, Text.isBlank a) ∧
      ((textPieces ts).map Piece.root).flatMap (fun s => (splitTerms s).1) = ts := by
  obtain ⟨hterms, hleft⟩ := splitTerms_joined h
  unfold textPieces
  split
  · next hnil =>
    rw [hnil]
    exact ⟨fun _ hs => absurd hs List.not_mem_nil, rfl⟩
  · rw [List.map_singleton, List.flatMap_singleton]
    refine ⟨fun s hs => ?_, hterms⟩
    rw [List.mem_singleton.1 hs]
    exact ⟨closes_joined h, hleft⟩

private theorem forall_mem_root_groupPieces (f : Filter) :
    (∀ s ∈ f.groupPieces.map Piece.root, Closes s ∧ ∀ a ∈ left s, Text.isBlank a) ∧
      (f.groupPieces.map Piece.root).flatMap (fun s => (splitTerms s).1) = [] := by
  have hnil : ∀ s ∈ f.groupPieces.map Piece.root, s = [] := by
    intro s hs
    obtain ⟨p, hp, rfl⟩ := List.mem_map.1 hs
    obtain ⟨i, -, rfl⟩ := List.mem_map.1 hp
    rfl
  constructor
  · intro s hs
    rw [hnil s hs, left, splitTerms_nil]
    exact ⟨closes_of_not_mem List.not_mem_nil, fun _ ha => absurd ha List.not_mem_nil⟩
  · rw [List.flatMap_eq_nil_iff]
    intro s hs
    rw [hnil s hs, splitTerms_nil]

private theorem Legible.keywords_ne (hl : f.Legible) {k : String} (hk : f.keywords = some k) :
    k ≠ "" := by
  rintro rfl
  exact (hl.keywords "" hk).2.1.ne_nil rfl

private theorem map_root_keywordPieces (hl : f.Legible) :
    f.keywordPieces.map Piece.root = (f.keywords.map String.toList).toList := by
  unfold keywordPieces
  rw [List.map_map]
  cases hk : f.keywords with
  | none => rfl
  | some k =>
    have hne : k ≠ "" := hl.keywords_ne hk
    simp [Option.filter, hne, Piece.root]

/-- Every value of a filter survives in the term that states it. -/
def Surviving (f : Filter) : Prop :=
  ∀ group, ∀ t ∈ f.statedTerms group, Survives t.comparison t.value

theorem surviving_iff (hf : f.Keyed) :
    f.Surviving ↔ ∀ group field, ∀ c ∈ f.constraints field group,
      Survives c.comparison c.value.stated := by
  constructor
  · intro hs group field c hc
    have ht : stateConstraint field c ∈ f.statedTerms group := (mem_statedTerms hf).2 ⟨c, hc, rfl⟩
    exact hs group _ ht
  · intro h group t ht
    obtain ⟨c, hc, heq⟩ := (mem_statedTerms hf).1 ht
    rw [← heq]
    exact h group t.field c hc

section

variable (hf : f.WellFormed) (hl : f.Legible) (hs : f.Surviving)

include hf hl hs

/-- The root of the search string states the terms of group 0 and those of the sort, and
leaves over the keywords. -/
theorem splitTerms_root :
    (splitTerms (spaced (f.pieces.map Piece.root))).1 = f.statedTerms 0 ++ f.sortTerms ∧
      Text.trim (left (spaced (f.pieces.map Piece.root))) = (f.keywords.getD "").toList := by
  obtain ⟨hstated, hstatedTerms⟩ := forall_mem_root_textPieces (f.statedTerms 0) fun t ht =>
    ⟨isFieldName_of_mem_statedTerms hf hl ht, hs 0 t ht⟩
  obtain ⟨hgroup, hgroupTerms⟩ := forall_mem_root_groupPieces f
  obtain ⟨hsort, hsortTerms⟩ := forall_mem_root_textPieces f.sortTerms fun t ht => by
    obtain ⟨hname, v, hv, hvalue, -⟩ := isFieldName_of_mem_sortTerms hf hl ht
    rw [hv]
    exact ⟨hname, survives_of_isFieldName hvalue t.comparison⟩
  have hkeywords : ∀ s ∈ f.keywords.map String.toList, Solid s ∧ Termless s := by
    intro s hs
    obtain ⟨k, hk, rfl⟩ := Option.map_eq_some_iff.1 hs
    exact (hl.keywords k hk).2
  have hpieces := splitTerms_spaced_append
    (List.forall_mem_append.2 ⟨List.forall_mem_append.2 ⟨hstated, hgroup⟩, hsort⟩) hkeywords
  rw [List.flatMap_append, List.flatMap_append, hstatedTerms, hgroupTerms, hsortTerms,
    List.append_nil, ← map_root_keywordPieces hl, ← List.map_append, ← List.map_append,
    ← List.map_append] at hpieces
  obtain ⟨hterms, htrim⟩ := hpieces
  refine ⟨hterms, htrim.trans ?_⟩
  cases f.keywords <;> rfl

private theorem splitTerms_joined_statedTerms (group : Int) :
    (splitTerms (joined (f.statedTerms group))).1 = f.statedTerms group :=
  (splitTerms_joined fun t ht => ⟨isFieldName_of_mem_statedTerms hf hl ht, hs group t ht⟩).1

/-- Every group of the search string has the terms of that group, and the root those of the
sort behind them. -/
theorem termsOf_toQuery (group : Int) :
    termsOf f.toQuery group =
      f.statedTerms group ++ if group = 0 then f.sortTerms else [] := by
  cases group with
  | ofNat i =>
    rw [termsOf, texts_toQuery hf hl]
    cases i with
    | zero => exact (splitTerms_root hf hl hs).1
    | succ i =>
      have hne : Int.ofNat (i + 1) ≠ 0 := Int.natCast_ne_zero.2 (Nat.succ_ne_zero i)
      rw [if_neg hne, List.append_nil, List.getElem?_cons_succ, List.getElem?_map]
      by_cases hi : i < f.groupCount
      · rw [List.getElem?_range hi]
        exact splitTerms_joined_statedTerms hf hl hs _
      · rw [List.getElem?_eq_none (by simpa using hi),
          statedTerms_of_not_mem fun hmem => hi (lt_groupCount hmem)]
        rfl
  | negSucc i =>
    have hneg : Int.negSucc i < 0 := Int.negSucc_lt_zero i
    rw [if_neg (Int.ne_of_lt hneg), List.append_nil, statedTerms, hf.nonneg _ hneg]
    rfl

theorem rootText_toQuery : rootText f.toQuery = f.keywords.getD "" := by
  have hroot : (splitGroups f.toQuery.toList).1 = spaced (f.pieces.map Piece.root) :=
    (List.cons.inj (texts_toQuery hf hl)).1
  unfold rootText
  rw [hroot, ← left, (splitTerms_root hf hl hs).2, String.ofList_toList]

/-- All terms that do not state a constraint state the sort. -/
theorem filterMap_allTerms_toQuery {α : Type} {choice : Term → Option α}
    (hchoice : ∀ group, ∀ t ∈ f.statedTerms group, choice t = none) :
    (allTerms f.toQuery).filterMap choice = f.sortTerms.filterMap choice := by
  have hnone (group : Int) : (f.statedTerms group).filterMap choice = [] :=
    List.filterMap_eq_nil_iff.2 (hchoice group)
  have hgroups : ((List.range f.groupCount).map fun i =>
      joined (f.statedTerms (i + 1 : Nat))).flatMap (fun s => (splitTerms s).1) =
        (List.range f.groupCount).flatMap fun i => f.statedTerms (i + 1 : Nat) := by
    rw [List.flatMap_map]
    exact List.flatMap_congr fun i _ => splitTerms_joined_statedTerms hf hl hs _
  unfold allTerms
  rw [texts_toQuery hf hl, List.flatMap_cons, (splitTerms_root hf hl hs).1, hgroups,
    List.filterMap_append, List.filterMap_append, hnone, List.nil_append, List.filterMap_flatMap,
    List.flatMap_eq_nil_iff.2 fun _ _ => hnone _, List.append_nil]

/-! ## Restoring a filter -/

omit hf hs in
private theorem not_contains_of_mem_sortTerms (h : t ∈ f.sortTerms) :
    f.registry.contains t.field = false := by
  have hsort : f.registry.contains sortWord = false := hl.not_contains (by decide)
  have horder : f.registry.contains orderWord = false := hl.not_contains (by decide)
  unfold sortTerms at h
  split at h
  · rcases List.mem_cons.1 h with rfl | h
    · exact hsort
    · rw [List.mem_singleton.1 h]
      exact horder
  · split at h
    · contradiction
    · rw [List.mem_singleton.1 h]
      exact horder

omit hf hs in
private theorem not_contains_of_mem_rootTerms (h : t ∈ if group = 0 then f.sortTerms else []) :
    f.registry.contains t.field = false := by
  split at h
  · exact not_contains_of_mem_sortTerms hl h
  · contradiction

omit hl hs in
private theorem contains_of_mem_statedTerms (h : t ∈ f.statedTerms group) :
    f.registry.contains t.field :=
  hf.registered group _ (field_mem_of_mem_statedTerms h)

private theorem sortField_ofQuery_toQuery :
    (ofQuery f.registry f.toQuery).sortField = f.sortField := by
  have hadded := added_ofQuery f.registry f.toQuery
  have hchoice : ∀ group, ∀ t ∈ f.statedTerms group, sortChoice f.registry t = none := by
    intro group t ht
    unfold sortChoice
    rw [if_neg]
    rintro ⟨-, hr⟩
    rw [contains_of_mem_statedTerms hf ht] at hr
    contradiction
  have hsort : f.registry.contains sortWord = false := hl.not_contains (by decide)
  have hne : orderWord ≠ sortWord := by decide
  have hterms : f.sortTerms.filterMap (sortChoice f.registry) = f.sortField.toList := by
    unfold sortTerms
    split
    · next name hs =>
      have hname : f.registry.contains name := hf.sorted name hs
      simp [sortChoice, hsort, hname, hne, hs, Option.filter]
    · next hs =>
      split <;> simp [sortChoice, hne, hs]
  calc (ofQuery f.registry f.toQuery).sortField
    _ = ((allTerms f.toQuery).filterMap (sortChoice f.registry)).getLast?.or none :=
      hadded.sortField
    _ = f.sortField.toList.getLast? := by
      rw [filterMap_allTerms_toQuery hf hl hs hchoice, hterms, Option.or_none]
    _ = f.sortField := by cases f.sortField <;> rfl

private theorem sortOrder_ofQuery_toQuery :
    (ofQuery f.registry f.toQuery).sortOrder = f.sortOrder := by
  have hadded := added_ofQuery f.registry f.toQuery
  have hchoice : ∀ group, ∀ t ∈ f.statedTerms group, orderChoice f.registry t = none := by
    intro group t ht
    unfold orderChoice
    rw [if_neg]
    rintro ⟨-, hr⟩
    rw [contains_of_mem_statedTerms hf ht] at hr
    contradiction
  have horder : f.registry.contains orderWord = false := hl.not_contains (by decide)
  have hne : sortWord ≠ orderWord := by decide
  have hterms : (f.sortTerms.filterMap (orderChoice f.registry)).getLast?.getD .descending =
      f.sortOrder := by
    unfold sortTerms
    cases f.sortOrder <;> cases f.sortField <;>
      simp [orderChoice, horder, hne, SortOrder.word]
  calc (ofQuery f.registry f.toQuery).sortOrder
    _ = ((allTerms f.toQuery).filterMap (orderChoice f.registry)).getLast?.getD .descending :=
      hadded.sortOrder
    _ = f.sortOrder := by rw [filterMap_allTerms_toQuery hf hl hs hchoice, hterms]

/-- The terms of a registered field in a group of the search string. -/
private theorem filter_termsOf_toQuery (hr : f.registry.contains field) (group : Int) :
    (termsOf f.toQuery group).filter (·.field = field) =
      (f.constraints field group).map (stateConstraint field) := by
  have hsort : (if group = 0 then f.sortTerms else []).filter (·.field = field) = [] := by
    rw [List.filter_eq_nil_iff]
    intro t ht heq
    have hnot := not_contains_of_mem_rootTerms hl ht
    rw [of_decide_eq_true heq, hr] at hnot
    contradiction
  rw [termsOf_toQuery hf hl hs, List.filter_append, hsort, List.append_nil,
    filter_statedTerms hf.toKeyed]

private theorem mem_numbers_ofQuery_toQuery (group : Int) :
    group ∈ (ofQuery f.registry f.toQuery).groups.numbers ↔
      group ∈ f.restored.groups.numbers := by
  have hadded := added_ofQuery f.registry f.toQuery
  rw [mem_numbers_restored hf.ordered, hadded.numbers, termsOf_toQuery hf hl hs]
  constructor
  · rintro (hmem | ⟨t, ht, hr⟩) hnil
    · contradiction
    · have hstated : f.statedTerms group = [] := by
        unfold statedTerms
        rw [hnil]
        rfl
      rw [hstated, List.nil_append] at ht
      have hnot := not_contains_of_mem_rootTerms hl ht
      rw [show f.registry.contains t.field from hr] at hnot
      contradiction
  · intro hne
    obtain ⟨name, hname⟩ : ∃ name, name ∈ f.fieldNames group :=
      List.exists_mem_of_ne_nil _ fun h => hne (List.map_eq_nil_iff.1 h)
    obtain ⟨c, hc⟩ := List.exists_mem_of_ne_nil _ (hf.constrained group name hname)
    have ht : stateConstraint name c ∈ f.statedTerms group :=
      (mem_statedTerms hf.toKeyed).2 ⟨c, hc, rfl⟩
    exact .inr ⟨_, List.mem_append_left _ ht, hf.registered group name hname⟩

private theorem fieldNames_ofQuery_toQuery (group : Int) :
    (ofQuery f.registry f.toQuery).fieldNames group = f.fieldNames group := by
  have hadded := added_ofQuery f.registry f.toQuery
  have hstated : ((f.statedTerms group).map (·.field)).filter
      (fun name => (empty f.registry).registry.contains name ∧
        name ∉ (empty f.registry).fieldNames group) =
          (f.statedTerms group).map (·.field) := by
    rw [List.filter_eq_self]
    intro name hname
    obtain ⟨t, ht, rfl⟩ := List.mem_map.1 hname
    have hr : f.registry.contains t.field := contains_of_mem_statedTerms hf ht
    exact decide_eq_true ⟨hr, List.not_mem_nil⟩
  have hsort : ((if group = 0 then f.sortTerms else []).map (·.field)).filter
      (fun name => (empty f.registry).registry.contains name ∧
        name ∉ (empty f.registry).fieldNames group) = [] := by
    rw [List.filter_eq_nil_iff]
    intro name hname hr
    obtain ⟨t, ht, rfl⟩ := List.mem_map.1 hname
    have hr : f.registry.contains t.field := (of_decide_eq_true hr).1
    rw [not_contains_of_mem_rootTerms hl ht] at hr
    contradiction
  rw [hadded.fieldNames, termsOf_toQuery hf hl hs, List.map_append, List.filter_append,
    hstated, hsort, List.append_nil, eraseDups_statedTerms hf]
  rfl

/-- A legible filter whose values survive is restored from its search string. -/
theorem ofQuery_toQuery : ofQuery f.registry f.toQuery = f.restored := by
  have hread := wellFormed_ofQuery f.registry f.toQuery
  have hadded := added_ofQuery f.registry f.toQuery
  have hkeywords : (ofQuery f.registry f.toQuery).keywords = f.keywords := by
    rw [hadded.keywords, rootText_toQuery hf hl hs]
    cases hk : f.keywords with
    | none => rfl
    | some k =>
      have hne : k ≠ "" := hl.keywords_ne hk
      exact if_neg hne
  have hgroups : (ofQuery f.registry f.toQuery).groups = f.restored.groups := by
    apply Groups.ext_constraints hread.ordered (ordered_restored hf.ordered)
    · exact mem_numbers_ofQuery_toQuery hf hl hs
    · exact hread.distinct
    · intro group
      exact (fieldNames_ofQuery_toQuery hf hl hs group).trans
        (fieldNames_restored hf.ordered group).symm
    · intro group name hname
      have hr : f.registry.contains name := by
        have := hread.registered group name hname
        rwa [registry_ofQuery] at this
      have hread := constraints_ofQuery hr f.toQuery group
      rw [filter_termsOf_toQuery hf hl hs hr, List.map_map] at hread
      exact hread.trans (constraints_restored hf.ordered name group).symm
  have hregistry := registry_ofQuery f.registry f.toQuery
  have hsortField := sortField_ofQuery_toQuery hf hl hs
  have hsortOrder := sortOrder_ofQuery_toQuery hf hl hs
  exact Filter.ext hregistry hgroups hkeywords hsortField hsortOrder

end

/-! ## Filters that come back -/

/-- A constraint that is read back where it is written: null, or a value with a text
without parentheses that survives. -/
def Restorable (c : Constraint) : Prop :=
  c.value.isWritable ∧ ∀ v ∈ c.value.stated, Plain v.toList ∧ Survives c.comparison (some v)

instance (c : Constraint) : Decidable (Restorable c) := inferInstanceAs (Decidable (_ ∧ _))

/-- Keywords that are read back: not empty, trimmed, without parentheses and without terms. -/
def RestorableKeywords (k : String) : Prop :=
  k ≠ "" ∧ Text.trim k.toList = k.toList ∧ Plain k.toList ∧ Termless k.toList

instance (k : String) : Decidable (RestorableKeywords k) :=
  inferInstanceAs (Decidable (_ ∧ _ ∧ _ ∧ _ = _))

theorem legible_of_restorable (hr : f.registry.Readable)
    (hvalues : ∀ group field, ∀ c ∈ f.constraints field group, Restorable c)
    (hkeywords : ∀ k ∈ f.keywords, RestorableKeywords k) : f.Legible := by
  refine ⟨hr, fun group field c hc v hv => ((hvalues group field c hc).2 v hv).1, ?_⟩
  intro k hk
  obtain ⟨hne, htrim, hplain, htermless⟩ := hkeywords k hk
  have hsolid : Solid (Text.trim k.toList) := by
    apply solid_trim
    rw [htrim]
    exact fun h => hne (String.toList_eq_nil_iff.1 h)
  exact ⟨hplain, htrim ▸ hsolid, htermless⟩

theorem surviving_of_restorable (hf : f.Keyed)
    (hvalues : ∀ group field, ∀ c ∈ f.constraints field group, Restorable c) : f.Surviving := by
  refine (surviving_iff hf).2 fun group field c hc => ?_
  have hrestorable := (hvalues group field c hc).2
  cases hv : c.value.stated with
  | none => exact True.intro
  | some v => exact (hrestorable v hv).2

theorem isWritable_of_restorable (hf : f.Keyed)
    (hvalues : ∀ group field, ∀ c ∈ f.constraints field group, Restorable c) : f.isWritable := by
  have hwritable := (forall_constraints_iff hf).1 fun group field c hc => (hvalues group field c hc).1
  rw [isWritable_iff_values]
  simpa only [values, List.forall_mem_flatMap, List.forall_mem_map] using hwritable

/-- Whatever changes made a filter, it can be written and is restored from its search string,
if its constraints and its keywords are restorable. -/
theorem ofQuery_toQuery_run (hr : r.Readable) (changes : List Change)
    (hvalues : ∀ group field, ∀ c ∈ ((empty r).run changes).constraints field group, Restorable c)
    (hkeywords : ∀ k ∈ ((empty r).run changes).keywords, RestorableKeywords k) :
    ((empty r).run changes).isWritable ∧
      ofQuery r ((empty r).run changes).toQuery = ((empty r).run changes).restored := by
  have hf := wellFormed_run r changes
  have hregistry : ((empty r).run changes).registry = r := registry_run (empty r) changes
  generalize (empty r).run changes = f at hf hvalues hkeywords hregistry
  subst hregistry
  exact ⟨isWritable_of_restorable hf.toKeyed hvalues,
    ofQuery_toQuery hf (legible_of_restorable hr hvalues hkeywords)
      (surviving_of_restorable hf.toKeyed hvalues)⟩

/-- A default, a constraint in a group behind an empty one, a sort and keywords. -/
def townChanges : List Change :=
  [.addDefaults [("age", .int 1)], .add (.text "age") (.text "a b") (.text "!~") false 2,
    .setSort (.text "age") (.text "asc"), .setKeywords (some "old town")]

theorem ofQuery_toQuery_townChanges :
    ages.Readable ∧
      (∀ group field, ∀ c ∈ ((empty ages).run townChanges).constraints field group,
        Restorable c) ∧
      (∀ k ∈ ((empty ages).run townChanges).keywords, RestorableKeywords k) ∧
      ((empty ages).run townChanges).isWritable ∧
      ofQuery ages ((empty ages).run townChanges).toQuery =
        ((empty ages).run townChanges).restored := by
  have hr : ages.Readable := by decide
  have hvalues : ∀ group field, ∀ c ∈ ((empty ages).run townChanges).constraints field group,
      Restorable c :=
    (forall_constraints_iff (wellFormed_run ages townChanges).toKeyed).2 (by decide +kernel)
  have hkeywords : ∀ k ∈ ((empty ages).run townChanges).keywords, RestorableKeywords k := by
    decide +kernel
  exact ⟨hr, hvalues, hkeywords, ofQuery_toQuery_run hr townChanges hvalues hkeywords⟩

/-! ## Search strings that come back -/

variable {query : String}

theorem restoredConstraint_termConstraint (t : Term) :
    restoredConstraint (termConstraint t) = termConstraint t := by
  obtain ⟨field, c, value⟩ := t
  cases value <;> rfl

theorem stateConstraint_termConstraint (t : Term) :
    stateConstraint t.field (termConstraint t) = t := by
  obtain ⟨field, c, value⟩ := t
  cases value <;> rfl

/-- A filter that is read has no empty groups. -/
private theorem fields_ofQuery_ne_nil (h : group ∈ (ofQuery r query).groups.numbers) :
    (ofQuery r query).groups.fields group ≠ [] := by
  intro hnil
  rcases ((added_ofQuery r query).numbers group).1 h with hmem | ⟨t, ht, hr⟩
  · contradiction
  · have hr : r.contains t.field := hr
    have hc : termConstraint t ∈ (ofQuery r query).constraints t.field group := by
      rw [constraints_ofQuery hr]
      exact List.mem_map_of_mem (List.mem_filter.2 ⟨ht, by simp⟩)
    have hname := mem_fieldNames_of_mem_constraints hc
    unfold fieldNames at hname
    rw [hnil] at hname
    contradiction

/-- Nothing is lost of a filter that is read: its constraints are as they are read back. -/
theorem restored_ofQuery (r : Registry) (query : String) :
    (ofQuery r query).restored = ofQuery r query := by
  have hf := wellFormed_ofQuery r query
  have hgroups : (ofQuery r query).restored.groups = (ofQuery r query).groups := by
    apply Groups.ext_constraints (ordered_restored hf.ordered) hf.ordered
    · intro group
      rw [mem_numbers_restored hf.ordered]
      refine ⟨fun hne => ?_, fields_ofQuery_ne_nil⟩
      by_contra hnot
      exact hne (Groups.fields_of_not_mem hnot)
    · intro group
      change ((ofQuery r query).restored.fieldNames group).Nodup
      rw [fieldNames_restored hf.ordered]
      exact hf.distinct group
    · exact fieldNames_restored hf.ordered
    · intro group name _
      refine (constraints_restored hf.ordered name group).trans ?_
      have hsame : ∀ c ∈ (ofQuery r query).constraints name group, restoredConstraint c = c := by
        intro c hc
        obtain ⟨t, -, -, rfl⟩ := exists_of_mem_constraints_ofQuery hc
        exact restoredConstraint_termConstraint t
      exact (List.map_congr_left hsame).trans (List.map_id' _)
  exact Filter.ext rfl hgroups rfl rfl rfl

private theorem exists_text_of_mem_termsOf (h : t ∈ termsOf query group) :
    ∃ s ∈ texts query, t ∈ (splitTerms s).1 := by
  cases group with
  | negSucc i => contradiction
  | ofNat i =>
    rw [termsOf] at h
    cases hs : (texts query)[i]? with
    | none => rw [hs] at h; contradiction
    | some s =>
      rw [hs] at h
      exact ⟨s, List.mem_of_getElem? hs, h⟩

/-- The value of a constraint that is read is taken from the search string, and has no
closing bracket. -/
private theorem value_of_mem_constraints_ofQuery {c : Constraint}
    (h : c ∈ (ofQuery r query).constraints field group) :
    ∃ s ∈ texts query, ∀ v ∈ c.value.stated, (∀ a ∈ v.toList, a ∈ s) ∧ ']' ∉ v.toList := by
  obtain ⟨t, ht, -, rfl⟩ := exists_of_mem_constraints_ofQuery h
  obtain ⟨s, hs, ht⟩ := exists_text_of_mem_termsOf ht
  have hvalue : (termConstraint t).value.stated = t.value :=
    congrArg Term.value (stateConstraint_termConstraint t)
  refine ⟨s, hs, fun v hv => ?_⟩
  rw [hvalue] at hv
  exact ⟨mem_of_mem_value ht hv, not_mem_value ht hv⟩

/-- No term is found in what the root of a search string leaves over. -/
theorem termless_rootText (query : String) : Termless (rootText query).toList := by
  unfold rootText
  rw [String.toList_ofList]
  exact (termless_left _).trim

theorem solid_rootText (hne : rootText query ≠ "") : Solid (rootText query).toList := by
  have hnil : (rootText query).toList ≠ [] := fun h => hne (String.toList_eq_nil_iff.1 h)
  unfold rootText at hnil ⊢
  rw [String.toList_ofList] at hnil ⊢
  exact solid_trim hnil

/-- A filter is legible that is read from a search string whose root has no parentheses. -/
theorem legible_ofQuery (hr : r.Readable) (hplain : Plain (splitGroups query.toList).1) :
    (ofQuery r query).Legible := by
  constructor
  case names => rwa [registry_ofQuery]
  case values =>
    intro group field c hc v hv
    obtain ⟨s, hs, hvalue⟩ := value_of_mem_constraints_ofQuery hc
    have hplain : Plain s := by
      rcases List.mem_cons.1 hs with rfl | hs
      · exact hplain
      · exact plain_of_mem_splitGroups hs
    exact hplain.mono (hvalue v hv).1
  case keywords =>
    intro k hk
    have hadded := added_ofQuery r query
    rw [hadded.keywords] at hk
    split at hk
    · contradiction
    · next hne =>
      obtain rfl := Option.some.inj hk
      refine ⟨?_, solid_rootText hne, termless_rootText query⟩
      unfold rootText
      rw [String.toList_ofList]
      exact hplain.mono fun a ha => (left_sublist _).mem (mem_of_mem_trim ha)

/-- A text in front of others is followed by nothing or by a blank. -/
private theorem exists_spaced_cons (s : List Char) (ss : List (List Char)) :
    ∃ u, u.head?.all Text.isBlank ∧ spaced (s :: ss) = s ++ u := by
  cases ss with
  | nil => exact ⟨[], rfl, by rw [spaced_singleton, List.append_nil]⟩
  | cons t ss => exact ⟨' ' :: spaced (t :: ss), rfl, spaced_cons_cons s t ss⟩

/-- If the first of some terms is the first that is read on its field, its value survives. -/
private theorem survives_of_find?_joined {t : Term} {ts : List Term} {u : List Char}
    (hfield : IsFieldName t.field) (hclose : ∀ v ∈ t.value, ']' ∉ v.toList)
    (hu : u.head?.all Text.isBlank)
    (hfirst : (splitTerms (joined (t :: ts) ++ u)).1.find? (·.field == t.field) = some t) :
    Survives t.comparison t.value := by
  obtain ⟨w, hw, hjoined⟩ := exists_spaced_cons t.write.toList (ts.map (·.write.toList))
  have hwu : (w ++ u).head?.all Text.isBlank := by
    cases w with
    | nil => exact hu
    | cons a w => exact hw
  unfold joined at hfirst
  rw [List.map_cons, hjoined, List.append_assoc] at hfirst
  obtain ⟨field, c, value⟩ := t
  cases value with
  | none => exact True.intro
  | some v =>
    by_contra hnot
    exact find?_splitTerms_write hfield (hclose v rfl) hnot hwu hfirst

/-- If of some terms every field is read back with its terms in order, all their values
survive: the first one that does not would be read as another term. -/
private theorem survives_of_filter_joined {ts : List Term} {u : List Char}
    (hu : u.head?.all Text.isBlank)
    (hts : ∀ t ∈ ts, IsFieldName t.field ∧ ∀ v ∈ t.value, ']' ∉ v.toList)
    (h : ∀ field ∈ ts.map (·.field),
      (splitTerms (joined ts ++ u)).1.filter (·.field = field) = ts.filter (·.field = field)) :
    ∀ t ∈ ts, Survives t.comparison t.value := by
  induction ts with
  | nil => intro t ht; contradiction
  | cons t ts ih =>
    obtain ⟨⟨hfield, hclose⟩, hts⟩ := List.forall_mem_cons.1 hts
    have hsurvives : Survives t.comparison t.value := by
      have hpred : (fun t' : Term => t'.field == t.field) = fun t' => decide (t'.field = t.field) :=
        funext fun t' => beq_eq_decide _ _
      apply survives_of_find?_joined hfield hclose hu
      rw [hpred, ← List.head?_filter, h t.field List.mem_cons_self,
        List.filter_cons_of_pos (by simp), List.head?_cons]
    refine List.forall_mem_cons.2 ⟨hsurvives, ?_⟩
    cases ts with
    | nil => intro t ht; contradiction
    | cons t' ts =>
      apply ih hts
      intro field hmem
      have hfilter := h field (List.mem_cons_of_mem _ hmem)
      have hjoined : joined (t :: t' :: ts) ++ u =
          t.write.toList ++ ' ' :: (joined (t' :: ts) ++ u) := by
        unfold joined
        rw [List.map_cons, List.map_cons, spaced_cons_cons, List.append_assoc]
        rfl
      rw [hjoined, splitTerms_append_blank (by decide) (.inl (closes_write hfield hsurvives)),
        splitTerms_write hfield hsurvives, List.singleton_append, List.filter_cons,
        List.filter_cons] at hfilter
      split at hfilter
      · exact (List.cons.inj hfilter).2
      · exact hfilter

/-- A group of the search string begins with its terms, whether or not they survive. -/
private theorem exists_termsOf_toQuery (hf : f.WellFormed) (hl : f.Legible)
    (hne : f.statedTerms group ≠ []) :
    ∃ u, u.head?.all Text.isBlank ∧
      termsOf f.toQuery group = (splitTerms (joined (f.statedTerms group) ++ u)).1 := by
  have hmem : group ∈ f.groups.numbers := by
    by_contra hnot
    exact hne (statedTerms_of_not_mem hnot)
  cases group with
  | negSucc i =>
    unfold statedTerms at hne
    rw [hf.nonneg _ (Int.negSucc_lt_zero i)] at hne
    exact absurd rfl hne
  | ofNat i =>
    rw [termsOf, texts_toQuery hf hl]
    cases i with
    | zero =>
      have hpieces : f.pieces = .text (joined (f.statedTerms 0)) ::
          (f.groupPieces ++ textPieces f.sortTerms ++ f.keywordPieces) := by
        have hne : f.statedTerms 0 ≠ [] := hne
        unfold pieces
        rw [textPieces, if_neg hne, List.append_assoc, List.append_assoc, List.singleton_append,
          List.append_assoc]
      obtain ⟨u, hu, hspaced⟩ := exists_spaced_cons (joined (f.statedTerms 0))
        ((f.groupPieces ++ textPieces f.sortTerms ++ f.keywordPieces).map Piece.root)
      refine ⟨u, hu, ?_⟩
      rw [List.getElem?_cons_zero, hpieces, List.map_cons]
      exact congrArg (fun s => (splitTerms s).1) hspaced
    | succ i =>
      refine ⟨[], rfl, ?_⟩
      rw [List.getElem?_cons_succ, List.getElem?_map, List.getElem?_range (lt_groupCount hmem),
        List.append_nil]
      rfl

/-- If the constraints of a filter come back as they are stated, all its values survive. -/
private theorem surviving_of_constraints_eq (hf : f.WellFormed) (hl : f.Legible)
    (hclose : ∀ group field, ∀ c ∈ f.constraints field group, ∀ v ∈ c.value.stated,
      ']' ∉ v.toList)
    (h : ∀ group field, (ofQuery f.registry f.toQuery).constraints field group =
      f.constraints field group) : f.Surviving := by
  intro group
  by_cases hne : f.statedTerms group = []
  · intro t ht
    rw [hne] at ht
    contradiction
  · obtain ⟨u, hu, hterms⟩ := exists_termsOf_toQuery hf hl hne
    apply survives_of_filter_joined hu
    · intro t ht
      obtain ⟨c, hc, heq⟩ := (mem_statedTerms hf.toKeyed).1 ht
      refine ⟨isFieldName_of_mem_statedTerms hf hl ht, fun v hv => ?_⟩
      rw [← heq] at hv
      exact hclose group t.field c hc v hv
    · intro field hfield
      obtain ⟨t, ht, rfl⟩ := List.mem_map.1 hfield
      have hread := constraints_ofQuery (contains_of_mem_statedTerms hf ht) f.toQuery group
      have hstated := congrArg (List.map (stateConstraint t.field)) (hread.symm.trans (h group t.field))
      have hsame : ∀ t' ∈ (termsOf f.toQuery group).filter (·.field = t.field),
          stateConstraint t.field (termConstraint t') = t' := by
        intro t' ht'
        have hfield : t'.field = t.field := by simpa using (List.mem_filter.1 ht').2
        rw [← hfield]
        exact stateConstraint_termConstraint t'
      rw [List.map_map, ← filter_statedTerms hf.toKeyed] at hstated
      rw [← hterms, ← hstated]
      exact ((List.map_congr_left hsame).trans (List.map_id' _)).symm

/-- A filter that is read from a search string whose root has no parentheses comes back from
its own search string exactly if each of its values survives. -/
theorem ofQuery_toQuery_ofQuery_iff (hr : r.Readable) (hplain : Plain (splitGroups query.toList).1) :
    ofQuery r (ofQuery r query).toQuery = ofQuery r query ↔
      ∀ group field, ∀ c ∈ (ofQuery r query).constraints field group,
        Survives c.comparison c.value.stated := by
  have hf := wellFormed_ofQuery r query
  have hl := legible_ofQuery hr hplain
  have hregistry := registry_ofQuery r query
  constructor
  · intro h group field c hc
    have hs : (ofQuery r query).Surviving := by
      apply surviving_of_constraints_eq hf hl
      · intro group field c hc v hv
        obtain ⟨s, -, hvalue⟩ := value_of_mem_constraints_ofQuery hc
        exact (hvalue v hv).2
      · rw [hregistry, h]
        exact fun _ _ => rfl
    exact (surviving_iff hf.toKeyed).1 hs group field c hc
  · intro h
    have hback := ofQuery_toQuery hf hl ((surviving_iff hf.toKeyed).2 h)
    rwa [hregistry, restored_ofQuery] at hback

theorem ofQuery_toQuery_ofQuery_ages :
    ages.Readable ∧ Plain (splitGroups "age>=[a b] old (age!null) town".toList).1 ∧
      ofQuery ages (ofQuery ages "age>=[a b] old (age!null) town").toQuery =
        ofQuery ages "age>=[a b] old (age!null) town" := by
  have hr : ages.Readable := by decide
  have hplain : Plain (splitGroups "age>=[a b] old (age!null) town".toList).1 := by
    decide +kernel
  have hf := wellFormed_ofQuery ages "age>=[a b] old (age!null) town"
  have hsurvives : ∀ group field,
      ∀ c ∈ (ofQuery ages "age>=[a b] old (age!null) town").constraints field group,
        Survives c.comparison c.value.stated :=
    (forall_constraints_iff hf.toKeyed).2 (by decide +kernel)
  exact ⟨hr, hplain, (ofQuery_toQuery_ofQuery_iff hr hplain).2 hsurvives⟩

/-- Not every filter comes back: a value that is an opening bracket in brackets is written
without the outer ones. -/
theorem not_ofQuery_toQuery_ofQuery :
    ¬ ∀ (r : Registry) (query : String), r.Readable → Plain (splitGroups query.toList).1 →
      ofQuery r (ofQuery r query).toQuery = ofQuery r query := by
  intro h
  have hback := h ages "age:[[a]" (by decide) (by decide +kernel)
  have hkeywords : (ofQuery ages (ofQuery ages "age:[[a]").toQuery).keywords ≠
      (ofQuery ages "age:[[a]").keywords := by decide +kernel
  exact hkeywords (congrArg Filter.keywords hback)

end FieldedSearch.Filter
