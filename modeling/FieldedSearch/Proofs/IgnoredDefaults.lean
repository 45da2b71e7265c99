-- SUMMARY: Which of the defaults that are reported as ignored have no effect on a filter.
import FieldedSearch.Proofs.Acceptance

/-!
# Defaults that are reported as ignored

The check of settings reports of each default for a field that is not registered that it is
ignored. No constraint comes of such a default, so the groups and the keywords of a filter are
the same without it. But the words `sort` and `order`, unless they are registered, set the sort
of the filter, and this stays unless the search string sets it again. So a default is ignored
exactly if it does not act in this way (`CommandLine.buildFilter_withoutDefault_iff`).
-/

namespace FieldedSearch

/-! ## Tables without an entry -/

namespace Entries

variable {β γ : Type} {entries : List (String × β)} {name word : String}
  {g : String × β → Option γ}

theorem get?_filter_ne : get? (entries.filter (·.1 ≠ name)) word =
    if word = name then none else get? entries word := by
  induction entries with
  | nil => exact (ite_self none).symm
  | cons entry entries ih =>
    obtain ⟨n, v⟩ := entry
    by_cases hn : n = name
    · subst hn
      rw [List.filter_cons_of_neg (by simp), ih]
      split
      · rfl
      · next hword => rw [get?_cons_of_ne hword]
    · rw [List.filter_cons_of_pos (by simpa using hn)]
      by_cases hword : word = n
      · subst hword
        rw [get?_cons_self, get?_cons_self, if_neg hn]
      · rw [get?_cons_of_ne hword, get?_cons_of_ne hword, ih]

/-- Where nothing comes of an entry, it may be left out. -/
theorem filterMap_filter_ne (h : ∀ entry, entry.1 = name → g entry = none) :
    (entries.filter (·.1 ≠ name)).filterMap g = entries.filterMap g := by
  rw [List.filterMap_filter]
  refine List.filterMap_congr fun entry _ => ?_
  by_cases hname : entry.1 = name
  · rw [h entry hname, ite_self]
  · rw [if_pos (decide_eq_true hname)]

/-- Where something comes of one entry only, it is the last that does. -/
theorem getLast?_filterMap (hdistinct : (names entries).Nodup)
    (h : ∀ entry, entry.1 ≠ word → g entry = none) :
    (entries.filterMap g).getLast? = (get? entries word).bind fun v => g (word, v) := by
  induction entries with
  | nil => rfl
  | cons entry entries ih =>
    obtain ⟨n, v⟩ := entry
    obtain ⟨hn, hentries⟩ := List.nodup_cons.1 hdistinct
    rw [Filter.getLast?_filterMap_cons, ih hentries]
    by_cases hword : word = n
    · subst hword
      rw [get?_eq_none_iff.2 hn, get?_cons_self]
      rfl
    · rw [get?_cons_of_ne hword, h (n, v) (Ne.symm hword), Option.or_none]

end Entries

/-! ## What is reported -/

namespace Settings

variable {s : Settings} {r : Registry} {name : String}

theorem toList_ignoredText (name : String) : (ignoredText name).toList =
    "Default value for unknown search field '".toList ++ name.toList ++ "' is ignored".toList := by
  change ("Default value for unknown search field '" ++ name ++ "' is ignored").toList = _
  rw [String.toList_append, String.toList_append]

theorem head?_ignoredText (name : String) : (ignoredText name).toList.head? = some 'D' := by
  rw [toList_ignoredText, List.append_assoc, List.head?_append]
  rfl

theorem ignoredText_inj {other : String} (h : ignoredText name = ignoredText other) :
    name = other := by
  have hlist := congrArg String.toList h
  rw [toList_ignoredText, toList_ignoredText, List.append_left_inj, List.append_right_inj] at hlist
  exact String.toList_inj.1 hlist

/-- It is reported exactly of the defaults for fields that are not registered that they are
ignored. -/
theorem ignoredText_mem_warnings_iff : ignoredText name ∈ s.warnings r ↔
    name ∈ Entries.names s.defaults ∧ r.contains name = false := by
  have hother {text : String} (h : text.toList.head? = some 'N') (p : Bool) :
      ignoredText name ∉ if p then [text] else [] := by
    intro hmem
    split at hmem
    · have hhead := head?_ignoredText name
      rw [List.mem_singleton.1 hmem, h] at hhead
      contradiction
    · exact List.not_mem_nil hmem
  have hdefaults : ignoredText name ∈ defaultWarnings r s.defaults ↔
      name ∈ Entries.names s.defaults ∧ r.contains name = false := by
    unfold defaultWarnings Entries.names
    rw [List.mem_map, List.mem_map]
    constructor
    · rintro ⟨entry, hentry, htext⟩
      obtain ⟨hentry, hcontains⟩ := List.mem_filter.1 hentry
      obtain rfl := ignoredText_inj htext
      exact ⟨⟨entry, hentry, rfl⟩, by simpa using hcontains⟩
    · rintro ⟨⟨entry, hentry, rfl⟩, hcontains⟩
      exact ⟨entry, List.mem_filter.2 ⟨hentry, by simpa using hcontains⟩, rfl⟩
  unfold warnings
  rw [List.mem_append, List.mem_append, hdefaults]
  exact or_iff_right (not_or.2 ⟨hother rfl _, hother rfl _⟩)

/-- Settings without the default for a field. -/
def withoutDefault (s : Settings) (name : String) : Settings :=
  { s with defaults := s.defaults.filter (·.1 ≠ name) }

/-- Settings without one of their defaults pass the same check. -/
theorem check_withoutDefault (h : s.check = .ok r) (name : String) :
    (s.withoutDefault name).check = .ok r := by
  obtain ⟨hsize, htimeout, hr, hdefaults⟩ := check_eq_ok_iff.1 h
  refine check_eq_ok_iff.2 ⟨hsize, htimeout, hr, fun entry hentry => ?_⟩
  exact hdefaults entry (List.mem_of_mem_filter hentry)

end Settings

/-! ## What defaults do -/

namespace Filter

open Query

variable {f : Filter} {r : Registry} {name : String} {ds : List (String × Value)}

/-- The constraint that a default adds. -/
def additionDefault (r : Registry) (entry : String × Value) : Option Addition :=
  (Proposal.ofDefault entry).addition? r

/-- The field that a default names to sort by. -/
def sortDefault (r : Registry) (entry : String × Value) : Option String :=
  if entry.1 = sortWord ∧ r.contains entry.1 = false then
    (defaultParts entry.2).1.text?.filter (r.contains ·)
  else none

/-- The order that a default sets. -/
def orderDefault (r : Registry) (entry : String × Value) : Option SortOrder :=
  if entry.1 = orderWord ∧ r.contains entry.1 = false then
    some (.ofValue (defaultParts entry.2).1)
  else none

theorem additionDefault_eq_none {entry : String × Value} (h : r.contains entry.1 = false) :
    additionDefault r entry = none := by
  unfold additionDefault Proposal.addition?
  split
  · exact if_neg fun hand => Bool.false_ne_true (h.symm.trans hand.1)
  · rfl

/-- A default for a field that is not registered sets the sort or does nothing. -/
theorem direct_eq {entry : String × Value} (h : f.registry.contains entry.1 = false) :
    f.direct entry.1 (defaultParts entry.2).1 = { f with
      sortField := (sortDefault f.registry entry).or f.sortField
      sortOrder := (orderDefault f.registry entry).getD f.sortOrder } := by
  obtain ⟨name, v⟩ := entry
  have hne : sortWord ≠ orderWord := by decide
  by_cases hsort : name = sortWord
  · subst hsort
    cases hv : (defaultParts v).1 with
    | text field =>
      cases hfield : f.registry.contains field <;>
        simp [direct, sortDefault, orderDefault, h, hv, hfield, hne, Value.text?, Option.filter]
    | _ => simp [direct, sortDefault, orderDefault, h, hv, hne, Value.text?]
  · by_cases horder : name = orderWord
    · subst horder
      simp [direct, sortDefault, orderDefault, h, hne.symm]
    · simp [direct, sortDefault, orderDefault, hsort, horder]

/-- A default that passes the check adds a constraint or else sets the sort. -/
theorem add_ofDefault {entry : String × Value}
    (h : Settings.checkDefault entry.1 entry.2 = .ok ()) (f : Filter) :
    f.add entry.1 (defaultParts entry.2).1 (defaultParts entry.2).2 true 0 = .ok { f with
      groups := f.groups.addAll (additionDefault f.registry entry).toList
      sortField := (sortDefault f.registry entry).or f.sortField
      sortOrder := (orderDefault f.registry entry).getD f.sortOrder } := by
  by_cases hcontains : f.registry.contains entry.1
  · obtain ⟨c, hc⟩ := Settings.exists_comparison h
    simp [Filter.add, insert, additionDefault, Proposal.ofDefault, Proposal.addition?,
      sortDefault, orderDefault, hcontains, hc, Groups.addAll]
  · have hnot := Bool.eq_false_iff.2 hcontains
    rw [Filter.add, if_neg hcontains, direct_eq hnot, additionDefault_eq_none hnot]
    rfl

/-- Defaults that pass the check add their constraints, and the last one that sets a part of
the sort decides. -/
theorem addDefaults_eq
    (h : ∀ entry ∈ ds, Settings.checkDefault entry.1 entry.2 = .ok ()) (f : Filter) :
    (f.addDefaults ds).1 = { f with
      groups := f.groups.addAll (ds.filterMap (additionDefault f.registry))
      sortField := (ds.filterMap (sortDefault f.registry)).getLast?.or f.sortField
      sortOrder := (ds.filterMap (orderDefault f.registry)).getLast?.getD f.sortOrder } := by
  induction ds generalizing f with
  | nil => rfl
  | cons entry ds ih =>
    obtain ⟨hentry, hds⟩ := List.forall_mem_cons.1 h
    have hstep {f' : Filter} (hadd : f.add entry.1 (defaultParts entry.2).1
        (defaultParts entry.2).2 true 0 = .ok f') :
        (f.addDefaults (entry :: ds)).1 = (f'.addDefaults ds).1 := by
      rw [addDefaults]
      simp only [hadd]
    rw [hstep (add_ofDefault hentry f), ih hds, getLast?_filterMap_cons,
      getLast?_filterMap_cons, Option.or_assoc, Option.getD_or, ← Groups.addAll_append]
    cases ha : additionDefault f.registry entry with
    | none => rw [List.filterMap_cons_none ha, Option.toList_none, List.nil_append]
    | some a => rw [List.filterMap_cons_some ha, Option.toList_some, List.singleton_append]

/-- All that a search string makes of a filter. -/
theorem addQuery_eq_additions (f : Filter) (query : String) : f.addQuery query = { f with
    groups := f.groups.addAll (Proposal.additions f.registry
      ((numbered 0 (texts query)).map fun (group, t) => .ofTerm group t))
    keywords := if rootText query = "" then f.keywords else some (rootText query)
    sortField := ((allTerms query).filterMap (sortChoice f.registry)).getLast?.or f.sortField
    sortOrder :=
      ((allTerms query).filterMap (orderChoice f.registry)).getLast?.getD f.sortOrder } := by
  have hregistry := registry_addTerms f (numbered 0 (texts query))
  have hgroups := groups_addTerms f (numbered 0 (texts query))
  have hfield := sortField_addTerms f (numbered 0 (texts query))
  have horder := sortOrder_addTerms f (numbered 0 (texts query))
  rw [map_snd_numbered] at hfield horder
  rw [addQuery_eq]
  unfold setKeywords allTerms
  rw [← hgroups, ← hfield, ← horder, ← hregistry]

/-! ## Filters without a default -/

/-- A default that sets a part of the sort which the search string leaves as it is. -/
inductive SetsSort (r : Registry) (query : String) (name : String) (v : Value) : Prop
  | field (hname : name = sortWord)
      (hvalue : ∃ field, (defaultParts v).1 = .text field ∧ r.contains field)
      (hquery : ∀ t ∈ allTerms query, t.field = sortWord → ∀ s ∈ t.value, r.contains s = false)
  | order (hname : name = orderWord)
      (hvalue : (defaultParts v).1 ≠ .text SortOrder.descending.word)
      (hquery : ∀ t ∈ allTerms query, t.field ≠ orderWord)

/-- The filter for a search string over defaults, by its parts. -/
theorem addQuery_addDefaults_eq (h : ∀ entry ∈ ds, Settings.checkDefault entry.1 entry.2 = .ok ())
    (hdistinct : (Entries.names ds).Nodup) (query : String) :
    ((empty r).addDefaults ds).1.addQuery query = {
      registry := r
      groups := (Groups.addAll [] (ds.filterMap (additionDefault r))).addAll (Proposal.additions r
        ((numbered 0 (texts query)).map fun (group, t) => .ofTerm group t))
      keywords := if rootText query = "" then none else some (rootText query)
      sortField := ((allTerms query).filterMap (sortChoice r)).getLast?.or
        ((Entries.get? ds sortWord).bind fun v => sortDefault r (sortWord, v))
      sortOrder := ((allTerms query).filterMap (orderChoice r)).getLast?.getD
        (((Entries.get? ds orderWord).bind fun v => orderDefault r (orderWord, v)).getD
          .descending) } := by
  have hsort : ∀ entry : String × Value, entry.1 ≠ sortWord → sortDefault r entry = none :=
    fun _ hne => if_neg fun hand => hne hand.1
  have horder : ∀ entry : String × Value, entry.1 ≠ orderWord → orderDefault r entry = none :=
    fun _ hne => if_neg fun hand => hne hand.1
  rw [addQuery_eq_additions, addDefaults_eq h, ← Entries.getLast?_filterMap hdistinct hsort,
    ← Entries.getLast?_filterMap hdistinct horder]
  dsimp only [empty]
  rw [Option.or_none]

/-- The search string leaves the field to sort by as it is exactly if none of its terms names
another. -/
theorem getLast?_sortChoice_eq_none_iff (h : r.contains sortWord = false) {ts : List Term} :
    (ts.filterMap (sortChoice r)).getLast? = none ↔
      ∀ t ∈ ts, t.field = sortWord → ∀ s ∈ t.value, r.contains s = false := by
  rw [List.getLast?_eq_none_iff, List.filterMap_eq_nil_iff]
  refine forall₂_congr fun t _ => ?_
  unfold sortChoice
  by_cases hfield : t.field = sortWord
  · rw [if_pos ⟨hfield, hfield ▸ h⟩, Option.filter_eq_none_iff]
    simp [hfield]
  · simp [hfield]

theorem getLast?_orderChoice_eq_none_iff (h : r.contains orderWord = false) {ts : List Term} :
    (ts.filterMap (orderChoice r)).getLast? = none ↔ ∀ t ∈ ts, t.field ≠ orderWord := by
  rw [List.getLast?_eq_none_iff, List.filterMap_eq_nil_iff]
  refine forall₂_congr fun t _ => ?_
  unfold orderChoice
  by_cases hfield : t.field = orderWord
  · simp [hfield, h]
  · simp [hfield]

theorem sortDefault_ne_none_iff (h : r.contains sortWord = false) {v : Value} :
    sortDefault r (sortWord, v) ≠ none ↔
      ∃ field, (defaultParts v).1 = .text field ∧ r.contains field := by
  unfold sortDefault
  rw [if_pos ⟨rfl, h⟩]
  cases (defaultParts v).1 <;> simp [Value.text?, Option.filter]

theorem orderDefault_eq_descending_iff (h : r.contains orderWord = false) {v : Value} :
    (orderDefault r (orderWord, v)).getD .descending = .descending ↔
      (defaultParts v).1 = .text SortOrder.descending.word := by
  unfold orderDefault
  rw [if_pos ⟨rfl, h⟩, Option.getD_some]
  cases (defaultParts v).1 with
  | text s =>
    unfold SortOrder.ofValue
    split <;> simp_all
  | _ => simp [SortOrder.ofValue]

/-- Without a default for the field to sort by this field is the same, unless the default names
one and the search string leaves it as it is. -/
theorem sortField_eq_iff (h : r.contains sortWord = false) {ts : List Term} {v : Value} :
    (ts.filterMap (sortChoice r)).getLast?.or none =
        (ts.filterMap (sortChoice r)).getLast?.or (sortDefault r (sortWord, v)) ↔
      ((∃ field, (defaultParts v).1 = .text field ∧ r.contains field) →
        ¬ ∀ t ∈ ts, t.field = sortWord → ∀ s ∈ t.value, r.contains s = false) := by
  rw [← getLast?_sortChoice_eq_none_iff h, ← sortDefault_ne_none_iff h]
  cases (ts.filterMap (sortChoice r)).getLast? with
  | none => simp [eq_comm]
  | some s => simp

theorem sortOrder_eq_iff (h : r.contains orderWord = false) {ts : List Term} {v : Value} :
    (ts.filterMap (orderChoice r)).getLast?.getD .descending =
        (ts.filterMap (orderChoice r)).getLast?.getD
          ((orderDefault r (orderWord, v)).getD .descending) ↔
      ((defaultParts v).1 ≠ .text SortOrder.descending.word →
        ¬ ∀ t ∈ ts, t.field ≠ orderWord) := by
  rw [← getLast?_orderChoice_eq_none_iff h, Ne, ← orderDefault_eq_descending_iff h]
  cases (ts.filterMap (orderChoice r)).getLast? with
  | none => simp [eq_comm]
  | some o => simp

/-- A default for a field that is not registered matters to a filter exactly if it sets a part
of the sort; and then to the sort only. -/
theorem addQuery_addDefaults_filter_ne {v : Value}
    (h : ∀ entry ∈ ds, Settings.checkDefault entry.1 entry.2 = .ok ())
    (hdistinct : (Entries.names ds).Nodup) (hentry : (name, v) ∈ ds)
    (hname : r.contains name = false) {query : String} {f f' : Filter}
    (hf : f = ((empty r).addDefaults ds).1.addQuery query)
    (hf' : f' = ((empty r).addDefaults (ds.filter (·.1 ≠ name))).1.addQuery query) :
    f'.registry = f.registry ∧ f'.groups = f.groups ∧ f'.keywords = f.keywords ∧
      (f' = f ↔ ¬ SetsSort r query name v) := by
  have hget := Entries.get?_of_mem hdistinct hentry
  have hchecked : ∀ entry ∈ ds.filter (·.1 ≠ name),
      Settings.checkDefault entry.1 entry.2 = .ok () :=
    fun entry hentry => h entry (List.mem_of_mem_filter hentry)
  have hrest : (Entries.names (ds.filter (·.1 ≠ name))).Nodup :=
    hdistinct.sublist (List.filter_sublist.map _)
  rw [addQuery_addDefaults_eq h hdistinct] at hf
  rw [addQuery_addDefaults_eq hchecked hrest, Entries.get?_filter_ne, Entries.get?_filter_ne,
    Entries.filterMap_filter_ne fun entry hsame => additionDefault_eq_none (hsame ▸ hname)] at hf'
  refine ⟨by rw [hf, hf'], by rw [hf, hf'], by rw [hf, hf'], ?_⟩
  rw [hf, hf', Filter.mk.injEq]
  simp only [true_and]
  -- what is left to compare is the sort, of which the name decides a part
  by_cases hsort : name = sortWord
  · have hne : orderWord ≠ name := by
      rw [hsort]
      decide
    subst hsort
    rw [if_pos rfl, if_neg hne, hget, and_iff_left rfl]
    refine (sortField_eq_iff hname).trans ⟨?_, fun h hvalue hquery => h (.field rfl hvalue hquery)⟩
    rintro h (⟨-, hvalue, hquery⟩ | ⟨horder, -, -⟩)
    · exact h hvalue hquery
    · exact hne horder.symm
  · by_cases horder : name = orderWord
    · subst horder
      rw [if_neg (Ne.symm hsort), if_pos rfl, hget, and_iff_right rfl]
      refine (sortOrder_eq_iff hname).trans
        ⟨?_, fun h hvalue hquery => h (.order rfl hvalue hquery)⟩
      rintro h (⟨hname, -, -⟩ | ⟨-, hvalue, hquery⟩)
      · exact hsort hname
      · exact h hvalue hquery
    · rw [if_neg (Ne.symm hsort), if_neg (Ne.symm horder)]
      refine iff_of_true ⟨rfl, rfl⟩ ?_
      rintro (⟨hname, -, -⟩ | ⟨hname, -, -⟩)
      · exact hsort hname
      · exact horder hname

end Filter

/-! ## Settings without a default -/

namespace CommandLine

variable {s : Settings} {loaded : Settings.Loaded} {name : String} {v : Value}

/-- Settings are accepted without a default of which it is reported that it is ignored. A
filter is built or not as before, and has the same groups and keywords; it is the same exactly
if the default does not set a part of the sort which the search string leaves as it is. -/
theorem buildFilter_withoutDefault_iff (h : Settings.accept [] s = .ok loaded)
    (hdistinct : (Entries.names s.defaults).Nodup) (hentry : (name, v) ∈ s.defaults)
    (hwarned : Settings.ignoredText name ∈ loaded.warnings) (query : String) (defaults : Bool) :
    ∃ loaded', Settings.accept [] (s.withoutDefault name) = .ok loaded' ∧
      ((∃ e, buildFilter loaded query defaults = .error e ∧
          buildFilter loaded' query defaults = .error e) ∨
        ∃ f f', buildFilter loaded query defaults = .ok f ∧
          buildFilter loaded' query defaults = .ok f' ∧
          f'.registry = f.registry ∧ f'.groups = f.groups ∧ f'.keywords = f.keywords ∧
          (f' = f ↔ (defaults → ¬ Filter.SetsSort loaded.registry query name v))) := by
  obtain ⟨r, hcheck, hloaded⟩ := exists_of_bind_eq_ok h
  obtain rfl := Except.ok.inj hloaded
  have hcheck' := Settings.check_withoutDefault hcheck name
  obtain ⟨-, -, -, hdefaults⟩ := Settings.check_eq_ok_iff.1 hcheck
  obtain ⟨-, -, -, hdefaults'⟩ := Settings.check_eq_ok_iff.1 hcheck'
  obtain ⟨-, hname⟩ := Settings.ignoredText_mem_warnings_iff.1 hwarned
  have hloaded' : Settings.accept [] (s.withoutDefault name) =
      .ok ⟨s.withoutDefault name, r, [] ++ (s.withoutDefault name).warnings r⟩ := by
    rw [Settings.accept, hcheck']
    rfl
  refine ⟨_, hloaded', ?_⟩
  rw [buildFilter_of_checked hdefaults, buildFilter_of_checked hdefaults']
  generalize hf : filterFor _ query defaults = f
  generalize hf' : filterFor _ query defaults = f'
  have hframe : f'.registry = f.registry ∧ f'.groups = f.groups ∧ f'.keywords = f.keywords ∧
      (f' = f ↔ (defaults → ¬ Filter.SetsSort r query name v)) := by
    cases defaults with
    | false =>
      obtain rfl : f' = f := hf'.symm.trans hf
      exact ⟨rfl, rfl, rfl, iff_of_true rfl nofun⟩
    | true =>
      rw [forall_prop_of_true rfl]
      exact Filter.addQuery_addDefaults_filter_ne hdefaults hdistinct hentry hname hf.symm hf'.symm
  have hunwritable : f'.unwritable? = f.unwritable? := by
    unfold Filter.unwritable? Filter.values
    rw [hframe.2.1]
  unfold Filter.ifWritable
  rw [hunwritable]
  cases f.unwritable? with
  | none => exact .inr ⟨f, f', rfl, rfl, hframe⟩
  | some v => exact .inl ⟨_, rfl, rfl⟩

/-- Settings with one field, and a default for the sort order. -/
def ascendingSettings : Settings :=
  { Settings.standard with
    fields := [("name", .map [])]
    defaults := [("order", .text "asc")] }

/-- What becomes of them. -/
def ascendingLoaded : Settings.Loaded where
  settings := ascendingSettings
  registry := ⟨[("name", ⟨["name"], .text, by decide⟩)], by decide⟩
  warnings := ["No CloudSearch endpoint configured (cloudsearch.search_endpoint)",
    "Default value for unknown search field 'order' is ignored"]

/-- A search string that sets the order makes the same filter without the default. -/
theorem buildFilter_withoutDefault_iff_descending :
    Settings.accept [] ascendingSettings = .ok ascendingLoaded ∧
    Settings.ignoredText "order" ∈ ascendingLoaded.warnings ∧
    ∃ loaded' f, Settings.accept [] (ascendingSettings.withoutDefault "order") = .ok loaded' ∧
      buildFilter ascendingLoaded "order:desc name:x" true = .ok f ∧
      buildFilter loaded' "order:desc name:x" true = .ok f := by
  have hloaded : Settings.accept [] ascendingSettings = .ok ascendingLoaded := by rfl
  have hwarned : Settings.ignoredText "order" ∈ ascendingLoaded.warnings := by decide
  have hset : ¬ ∀ t ∈ Query.allTerms "order:desc name:x", t.field ≠ Filter.orderWord := by
    decide +kernel
  have hbuilt : (buildFilter ascendingLoaded "order:desc name:x" true).toOption.isSome := by
    decide +kernel
  obtain ⟨loaded', hloaded', ⟨e, he, -⟩ | ⟨f, f', hf, hf', -, -, -, hsame⟩⟩ :=
    buildFilter_withoutDefault_iff hloaded (by decide) List.mem_cons_self hwarned
      "order:desc name:x" true
  · rw [he] at hbuilt
    contradiction
  · have hignored : ¬ Filter.SetsSort ascendingLoaded.registry "order:desc name:x" "order"
        (.text "asc") := by
      rintro (⟨hname, -, -⟩ | ⟨-, -, hquery⟩)
      · exact absurd hname (by decide)
      · exact hset hquery
    obtain rfl := hsame.2 fun _ => hignored
    exact ⟨hloaded, hwarned, loaded', f', hloaded', hf, hf'⟩

/-- A default for the order is reported as ignored, but a search string that leaves the order
as it is makes another filter without it. -/
theorem not_buildFilter_withoutDefault_ascending :
    Settings.accept [] ascendingSettings = .ok ascendingLoaded ∧
    Settings.ignoredText "order" ∈ ascendingLoaded.warnings ∧
    ¬ ∃ loaded', Settings.accept [] (ascendingSettings.withoutDefault "order") = .ok loaded' ∧
      buildFilter loaded' "x" true = buildFilter ascendingLoaded "x" true := by
  refine ⟨rfl, by decide, ?_⟩
  rintro ⟨loaded', hloaded', hsame⟩
  have horder : (buildFilter ascendingLoaded "x" true).toOption.map (·.sortOrder) =
      some .ascending := by
    decide +kernel
  obtain rfl := Except.ok.inj hloaded'
  rw [← hsame] at horder
  revert horder
  decide +kernel

end CommandLine

end FieldedSearch
