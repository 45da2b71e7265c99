-- SUMMARY: What a search string does to a filter, in every part of it.
import Mathlib.Data.List.Basic
import FieldedSearch.Filter.Change
import FieldedSearch.Proofs.Groups
import FieldedSearch.Proofs.Lexer

/-!
# Reading into a filter

A search string acts on a filter by its terms, one after another and group by group,
and by what its root leaves over. A term of a registered field is put into its group as
an explicit constraint; a term of an unregistered field can only set the sort.
`Filter.Added` says what that comes to for the whole filter: it is stated by the terms
of each group and not by the order in which they were added.
-/

namespace FieldedSearch

/-! ## The terms of a search string -/

namespace Query

/-- The texts of a search string: that of the root, then that of each group. -/
def texts (query : String) : List (List Char) :=
  let (root, groups) := splitGroups query.toList
  root :: groups

/-- The terms of a search string in the group of a number: those of the root for 0, and
none for the number of no group. -/
def termsOf (query : String) : Int → List Term
  | .ofNat i => ((texts query)[i]?).elim [] fun s => (splitTerms s).1
  | .negSucc _ => []

/-- All terms of a search string, those of the root first. -/
def allTerms (query : String) : List Term := (texts query).flatMap fun s => (splitTerms s).1

/-- What the root of a search string leaves over, trimmed. -/
def rootText (query : String) : String :=
  String.ofList (Text.trim (splitTerms (splitGroups query.toList).1).2)

/-- The terms of a list of texts, each with the number of its text. -/
def numbered (n : Nat) (ss : List (List Char)) : List (Nat × Term) :=
  (ss.zipIdx n).flatMap fun (s, i) => (splitTerms s).1.map (i, ·)

theorem numbered_cons (n : Nat) (s : List Char) (ss : List (List Char)) :
    numbered n (s :: ss) = (splitTerms s).1.map (n, ·) ++ numbered (n + 1) ss := by
  rw [numbered, List.zipIdx_cons, List.flatMap_cons]
  rfl

theorem map_snd_numbered (n : Nat) (ss : List (List Char)) :
    (numbered n ss).map (·.2) = ss.flatMap fun s => (splitTerms s).1 := by
  induction ss generalizing n with
  | nil => rfl
  | cons s ss ih =>
    rw [numbered_cons, List.map_append, ih, List.map_map, List.flatMap_cons]
    congr 1
    exact List.map_id _

private theorem filter_numbered (n i : Nat) (ss : List (List Char)) :
    (numbered n ss).filter (·.1 = i) =
      if n ≤ i then (ss[i - n]?).elim [] fun s => (splitTerms s).1.map (i, ·) else [] := by
  induction ss generalizing n with
  | nil => simp [numbered]
  | cons s ss ih =>
    rw [numbered_cons, List.filter_append, ih, List.filter_map]
    by_cases hn : n = i
    · subst hn
      have hp : ((fun p : Nat × Term => decide (p.1 = n)) ∘ fun t => (n, t)) = fun _ => true := by
        funext t
        simp
      rw [hp, List.filter_true, if_neg (by omega), if_pos (Nat.le_refl n), Nat.sub_self]
      simp
    · have hp : ((fun p : Nat × Term => decide (p.1 = i)) ∘ fun t => (n, t)) = fun _ => false := by
        funext t
        simp [hn]
      rw [hp, List.filter_false, List.map_nil, List.nil_append]
      by_cases hlt : n < i
      · obtain ⟨k, rfl⟩ : ∃ k, i = n + 1 + k := ⟨i - (n + 1), by omega⟩
        rw [if_pos (by omega), if_pos (by omega), show n + 1 + k - n = k + 1 by omega,
          show n + 1 + k - (n + 1) = k by omega, List.getElem?_cons_succ]
      · rw [if_neg (by omega), if_neg (by omega)]

/-- The terms with the number of a group are the terms of that group. -/
theorem filter_numbered_texts (query : String) (group : Int) :
    (((numbered 0 (texts query)).filter fun p => (p.1 : Int) = group).map (·.2)) =
      termsOf query group := by
  cases group with
  | ofNat i =>
    have := filter_numbered 0 i (texts query)
    simp only [Int.ofNat_eq_natCast, Int.natCast_inj, this, Nat.zero_le, ↓reduceIte, Nat.sub_zero,
      termsOf]
    cases (texts query)[i]? with
    | none => rfl
    | some s => simp [List.map_map, Function.comp_def]
  | negSucc i =>
    have hp : (fun p : Nat × Term => decide ((p.1 : Int) = Int.negSucc i)) = fun _ => false := by
      funext p
      simp only [decide_eq_false_iff_not]
      omega
    rw [hp, List.filter_false]
    rfl

end Query

namespace Filter

open Query

variable {f : Filter} {field : String} {group : Int}

/-! ## Filters as tables -/

/-- The numbers of the groups ascend, and no group names a field twice. -/
structure Keyed (f : Filter) : Prop where
  ordered : f.groups.Ordered
  distinct : ∀ group, (Entries.names (f.groups.fields group)).Nodup

/-- The fields that a group constrains, in order. -/
def fieldNames (f : Filter) (group : Int) : List String := Entries.names (f.groups.fields group)

/-- Only a field of a group has constraints in it. -/
theorem mem_fieldNames_of_mem_constraints {c : Constraint} (h : c ∈ f.constraints field group) :
    field ∈ f.fieldNames group := by
  by_contra hnot
  rw [Filter.constraints, Groups.constraints, Entries.get?_eq_none_iff.2 hnot] at h
  contradiction

/-- What holds of the constraints under each field of each group holds of all that stand in
the groups. -/
theorem forall_constraints_iff (hf : f.Keyed) {P : Int → String → Constraint → Prop} :
    (∀ group field, ∀ c ∈ f.constraints field group, P group field c) ↔
      ∀ g ∈ f.groups, ∀ e ∈ g.2, ∀ c ∈ e.2, P g.1 e.1 c := by
  constructor
  · rintro h ⟨group, fields⟩ hg ⟨field, cs⟩ he
    have hfields := Groups.fields_of_mem hf.ordered hg
    have hdistinct := hf.distinct group
    have hP := h group field
    rw [hfields] at hdistinct
    rwa [Filter.constraints, Groups.constraints, hfields, Entries.get?_of_mem hdistinct he] at hP
  · intro h group field c hc
    rw [Filter.constraints, Groups.constraints, Groups.fields] at hc
    cases hg : f.groups.lookup group with
    | none => rw [hg] at hc; contradiction
    | some fields =>
      rw [hg, Option.getD_some] at hc
      cases he : Entries.get? fields field with
      | none => rw [he] at hc; contradiction
      | some cs =>
        rw [he, Option.getD_some] at hc
        exact h _ (Entries.mem_of_lookup hg) _ (Entries.mem_of_lookup he) c hc

/-! ## One term -/

/-- The field that a term names to sort by. -/
def sortChoice (r : Registry) (t : Term) : Option String :=
  if t.field = sortWord ∧ r.contains t.field = false then t.value.filter (r.contains ·) else none

/-- The order that a term sets. -/
def orderChoice (r : Registry) (t : Term) : Option SortOrder :=
  if t.field = orderWord ∧ r.contains t.field = false then
    some (if t.value = some SortOrder.descending.word then .descending else .ascending)
  else none

/-- A term of a registered field is put into its group; any other can set the sort. -/
theorem addTerm_eq (i : Nat) (f : Filter) (t : Term) :
    addTerm i f t = { f with
      groups := if f.registry.contains t.field then
        f.groups.update i (·.add t.field (termConstraint t)) else f.groups
      sortField := (sortChoice f.registry t).or f.sortField
      sortOrder := (orderChoice f.registry t).getD f.sortOrder } := by
  obtain ⟨name, c, value⟩ := t
  have hne : sortWord ≠ orderWord := by decide
  cases hr : f.registry.contains name with
  | true => simp [addTerm, insert, hr, sortChoice, orderChoice]
  | false =>
    by_cases hs : name = sortWord
    · subst hs
      cases value with
      | none => simp [addTerm, insert, hr, direct, sortChoice, orderChoice, termConstraint, hne]
      | some v =>
        cases hv : f.registry.contains v <;>
          simp [addTerm, insert, hr, direct, sortChoice, orderChoice, termConstraint, hne, hv,
            Option.filter]
    · by_cases ho : name = orderWord
      · subst ho
        cases value <;>
          simp [addTerm, insert, hr, direct, sortChoice, orderChoice, termConstraint, hne.symm,
            SortOrder.ofValue]
      · simp [addTerm, insert, hr, direct, hs, sortChoice, orderChoice, ho]

/-! ## Many terms -/

/-- Put terms into the groups of their numbers. -/
def addTerms (f : Filter) (ts : List (Nat × Term)) : Filter :=
  ts.foldl (fun f (i, t) => addTerm i f t) f

@[simp] theorem addTerms_nil (f : Filter) : f.addTerms [] = f := rfl

@[simp] theorem addTerms_cons (f : Filter) (i : Nat) (t : Term) (ts : List (Nat × Term)) :
    f.addTerms ((i, t) :: ts) = (addTerm i f t).addTerms ts := rfl

theorem addTerms_append (f : Filter) (ts us : List (Nat × Term)) :
    f.addTerms (ts ++ us) = (f.addTerms ts).addTerms us :=
  List.foldl_append

@[simp] theorem registry_addTerms (f : Filter) (ts : List (Nat × Term)) :
    (f.addTerms ts).registry = f.registry := by
  induction ts generalizing f with
  | nil => rfl
  | cons p ts ih => rw [addTerms_cons, ih, addTerm_eq]

/-- Terms leave the keywords alone, and the keywords do not matter to them. -/
theorem addTerms_setKeywords (f : Filter) (k : Option String) (ts : List (Nat × Term)) :
    (f.setKeywords k).addTerms ts = (f.addTerms ts).setKeywords k := by
  induction ts generalizing f with
  | nil => rfl
  | cons p ts ih =>
    rw [addTerms_cons, addTerms_cons, ← ih, addTerm_eq, addTerm_eq]
    rfl

theorem keywords_addTerms (f : Filter) (ts : List (Nat × Term)) :
    (f.addTerms ts).keywords = f.keywords := by
  induction ts generalizing f with
  | nil => rfl
  | cons p ts ih => rw [addTerms_cons, ih, addTerm_eq]

theorem getLast?_filterMap_cons {α β : Type} (g : α → Option β) (x : α) (xs : List α) :
    ((x :: xs).filterMap g).getLast? = (xs.filterMap g).getLast?.or (g x) := by
  cases hg : g x with
  | none => rw [List.filterMap_cons_none hg, Option.or_none]
  | some y =>
    rw [List.filterMap_cons_some hg, List.getLast?_cons]
    cases (xs.filterMap g).getLast? <;> rfl

/-- The last term that names a field to sort by decides. -/
theorem sortField_addTerms (f : Filter) (ts : List (Nat × Term)) :
    (f.addTerms ts).sortField =
      ((ts.map (·.2)).filterMap (sortChoice f.registry)).getLast?.or f.sortField := by
  induction ts generalizing f with
  | nil => rfl
  | cons p ts ih =>
    obtain ⟨i, t⟩ := p
    rw [addTerms_cons, ih, addTerm_eq, List.map_cons, getLast?_filterMap_cons, Option.or_assoc]

/-- The last term that sets the order decides. -/
theorem sortOrder_addTerms (f : Filter) (ts : List (Nat × Term)) :
    (f.addTerms ts).sortOrder =
      ((ts.map (·.2)).filterMap (orderChoice f.registry)).getLast?.getD f.sortOrder := by
  induction ts generalizing f with
  | nil => rfl
  | cons p ts ih =>
    obtain ⟨i, t⟩ := p
    rw [addTerms_cons, ih, addTerm_eq, List.map_cons, getLast?_filterMap_cons, Option.getD_or]

/-! ## The groups after many terms -/

/-- The constraints of a list that are given explicitly. -/
def explicit (cs : List Constraint) : List Constraint := cs.filter (!·.isDefault)

theorem addTo_termConstraint (t : Term) (cs : List Constraint) :
    (termConstraint t).addTo cs = explicit cs ++ [termConstraint t] := rfl

theorem explicit_append_terms (cs : List Constraint) (ts : List Term) :
    explicit (explicit cs ++ ts.map termConstraint) = explicit cs ++ ts.map termConstraint := by
  have hterms : ∀ c ∈ ts.map termConstraint, (!c.isDefault) = true := by
    intro c hc
    obtain ⟨t, -, rfl⟩ := List.mem_map.1 hc
    rfl
  rw [explicit, List.filter_append, List.filter_eq_self.2 hterms, explicit, List.filter_filter]
  simp

/-- The terms with the number of a group. -/
def inGroup (group : Int) (ts : List (Nat × Term)) : List Term :=
  (ts.filter fun p => (p.1 : Int) = group).map (·.2)

theorem inGroup_cons_self (i : Nat) (t : Term) (ts : List (Nat × Term)) :
    inGroup i ((i, t) :: ts) = t :: inGroup i ts := by
  simp [inGroup]

theorem inGroup_cons_of_ne {i : Nat} (h : group ≠ i) (t : Term) (ts : List (Nat × Term)) :
    inGroup group ((i, t) :: ts) = inGroup group ts := by
  simp [inGroup, h.symm]

private theorem ordered_addTerm (hf : f.groups.Ordered) (i : Nat) (t : Term) :
    (addTerm i f t).groups.Ordered := by
  rw [addTerm_eq]
  dsimp only
  split
  · exact Groups.ordered_update hf
  · exact hf

private theorem registry_addTerm (i : Nat) (f : Filter) (t : Term) :
    (addTerm i f t).registry = f.registry := by
  rw [addTerm_eq]

private theorem constraints_addTerm (hf : f.groups.Ordered) (i : Nat) (t : Term) :
    (addTerm i f t).constraints field group =
      if f.registry.contains t.field ∧ group = i ∧ field = t.field then
        explicit (f.constraints field group) ++ [termConstraint t]
      else f.constraints field group := by
  rw [addTerm_eq]
  cases hr : f.registry.contains t.field with
  | false => simp [Filter.constraints]
  | true =>
    simp only [Filter.constraints, ↓reduceIte, true_and, Groups.constraints_update_add hf,
      addTo_termConstraint]
    by_cases h : group = i ∧ field = t.field
    · rw [if_pos h, if_pos h, h.1, h.2]
    · rw [if_neg h, if_neg h]

private theorem fieldNames_addTerm (hf : f.groups.Ordered) (i : Nat) (t : Term) :
    (addTerm i f t).fieldNames group =
      if f.registry.contains t.field ∧ group = i ∧ t.field ∉ f.fieldNames group then
        f.fieldNames group ++ [t.field]
      else f.fieldNames group := by
  rw [addTerm_eq]
  cases hr : f.registry.contains t.field with
  | false => simp [fieldNames]
  | true => simp only [fieldNames, ↓reduceIte, true_and, Groups.names_update_add hf]

/-- The terms of a registered field in a group replace the defaults of its list, if
there are any. -/
theorem constraints_addTerms (hf : f.groups.Ordered) (hr : f.registry.contains field)
    (group : Int) (ts : List (Nat × Term)) :
    (f.addTerms ts).constraints field group =
      if (inGroup group ts).filter (·.field = field) = [] then f.constraints field group
      else explicit (f.constraints field group) ++
        ((inGroup group ts).filter (·.field = field)).map termConstraint := by
  induction ts generalizing f with
  | nil => rfl
  | cons p ts ih =>
    obtain ⟨i, t⟩ := p
    have hr' : (addTerm i f t).registry.contains field := by rwa [registry_addTerm]
    rw [addTerms_cons, ih (ordered_addTerm hf i t) hr', constraints_addTerm hf]
    by_cases hg : group = i
    · subst hg
      rw [inGroup_cons_self]
      by_cases ht : t.field = field
      · have hcond : f.registry.contains t.field ∧ (i : Int) = i ∧ field = t.field :=
          ⟨ht ▸ hr, rfl, ht.symm⟩
        have hdec : decide (t.field = field) = true := by simpa using ht
        rw [if_pos hcond, List.filter_cons, if_pos hdec, if_neg (List.cons_ne_nil _ _)]
        by_cases hnil : (inGroup i ts).filter (·.field = field) = []
        · rw [if_pos hnil, hnil]
          rfl
        · rw [if_neg hnil, ← List.map_singleton, explicit_append_terms]
          simp
      · have hcond : ¬ (f.registry.contains t.field ∧ (i : Int) = i ∧ field = t.field) :=
          fun h => ht h.2.2.symm
        have hdec : ¬ decide (t.field = field) = true := by simpa using ht
        rw [if_neg hcond, List.filter_cons, if_neg hdec]
    · have hcond : ¬ (f.registry.contains t.field ∧ group = i ∧ field = t.field) :=
        fun h => hg h.2.1
      rw [inGroup_cons_of_ne hg, if_neg hcond]

/-- Nothing is put under a field that is not registered. -/
theorem constraints_addTerms_of_not_contains (hf : f.groups.Ordered)
    (hr : f.registry.contains field = false) (ts : List (Nat × Term)) :
    (f.addTerms ts).constraints field group = f.constraints field group := by
  induction ts generalizing f with
  | nil => rfl
  | cons p ts ih =>
    obtain ⟨i, t⟩ := p
    have hr' : (addTerm i f t).registry.contains field = false := by rwa [registry_addTerm]
    rw [addTerms_cons, ih (ordered_addTerm hf i t) hr', constraints_addTerm hf, if_neg]
    rintro ⟨h, -, rfl⟩
    rw [hr] at h
    contradiction

/-- New fields stand behind the old ones of their group, in the order of their first
terms. -/
theorem fieldNames_addTerms (hf : f.groups.Ordered) (group : Int) (ts : List (Nat × Term)) :
    (f.addTerms ts).fieldNames group =
      f.fieldNames group ++ (((inGroup group ts).map (·.field)).filter fun name =>
        f.registry.contains name ∧ name ∉ f.fieldNames group).eraseDups := by
  induction ts generalizing f with
  | nil => simp [inGroup]
  | cons p ts ih =>
    obtain ⟨i, t⟩ := p
    rw [addTerms_cons, ih (ordered_addTerm hf i t), registry_addTerm, fieldNames_addTerm hf]
    by_cases hg : group = i
    · subst hg
      rw [inGroup_cons_self, List.map_cons, List.filter_cons]
      by_cases hcond : f.registry.contains t.field ∧ t.field ∉ f.fieldNames i
      · have hdec : decide (f.registry.contains t.field ∧ t.field ∉ f.fieldNames i) = true := by
          simpa using hcond
        rw [if_pos ⟨hcond.1, rfl, hcond.2⟩, if_pos hdec, List.eraseDups_cons, List.filter_filter,
          List.append_assoc, List.singleton_append]
        congr 3
        apply List.filter_congr
        intro name _
        by_cases hn : name = t.field <;> simp [hn]
      · have hdec : ¬ decide (f.registry.contains t.field ∧ t.field ∉ f.fieldNames i) = true := by
          simpa using hcond
        rw [if_neg (fun h => hcond ⟨h.1, h.2.2⟩), if_neg hdec]
    · rw [inGroup_cons_of_ne hg, if_neg (fun h => hg h.2.1)]

/-- A group comes into being with the first term of a registered field in it. -/
theorem mem_numbers_addTerms (f : Filter) (group : Int) (ts : List (Nat × Term)) :
    group ∈ (f.addTerms ts).groups.numbers ↔
      group ∈ f.groups.numbers ∨ ∃ t ∈ inGroup group ts, f.registry.contains t.field := by
  induction ts generalizing f with
  | nil => simp [inGroup]
  | cons p ts ih =>
    obtain ⟨i, t⟩ := p
    have hstep : group ∈ (addTerm i f t).groups.numbers ↔
        group ∈ f.groups.numbers ∨ (group = i ∧ f.registry.contains t.field) := by
      rw [addTerm_eq]
      cases hr : f.registry.contains t.field with
      | false => simp
      | true => simp [Groups.mem_numbers_update, or_comm]
    rw [addTerms_cons, ih, registry_addTerm, hstep]
    by_cases hg : group = i
    · subst hg
      simp [inGroup_cons_self, or_assoc]
    · simp [inGroup_cons_of_ne hg, hg]

/-! ## A whole search string -/

private theorem addPart_of (f : Filter) (i : Nat) (s : List Char) :
    f.addPart (Part.of i s) =
      if i = 0 then
        (f.addTerms ((splitTerms s).1.map (i, ·))).addKeywords (String.ofList (splitTerms s).2)
      else f.addTerms ((splitTerms s).1.map (i, ·)) := by
  unfold addTerms
  rw [List.foldl_map]
  rfl

private theorem foldl_addPart (f : Filter) {n : Nat} (hn : n ≠ 0) (ss : List (List Char)) :
    ((ss.zipIdx n).map fun (s, i) => Part.of i s).foldl addPart f = f.addTerms (numbered n ss) := by
  induction ss generalizing f n with
  | nil => rfl
  | cons s ss ih =>
    rw [List.zipIdx_cons, List.map_cons, List.foldl_cons, addPart_of, if_neg hn,
      ih _ (Nat.succ_ne_zero n), numbered_cons, addTerms_append]

/-- A search string puts in its terms, and its root text replaces the keywords. -/
theorem addQuery_eq (f : Filter) (query : String) :
    f.addQuery query = (f.addTerms (numbered 0 (texts query))).setKeywords
      (if rootText query = "" then f.keywords else some (rootText query)) := by
  by_cases hq : query = ""
  · subst hq
    have hroot : rootText "" = "" := by decide +kernel
    have hterms : numbered 0 (texts "") = [] := by decide +kernel
    rw [if_pos hroot, hterms]
    rfl
  · have hparts : (tokenize query) = Part.of 0 (splitGroups query.toList).1 ::
        ((splitGroups query.toList).2.zipIdx 1).map fun (s, i) => Part.of i s := by
      unfold tokenize
      rw [if_neg hq]
      rfl
    have htexts : numbered 0 (texts query) =
        (splitTerms (splitGroups query.toList).1).1.map (0, ·) ++
          numbered 1 (splitGroups query.toList).2 :=
      numbered_cons _ _ _
    have hkeywords : ∀ g : Filter, g.keywords = f.keywords →
        g.addKeywords (String.ofList (splitTerms (splitGroups query.toList).1).2) =
          g.setKeywords (if rootText query = "" then f.keywords else some (rootText query)) := by
      intro g hg
      unfold addKeywords
      rw [String.toList_ofList]
      by_cases hroot : rootText query = ""
      · rw [if_pos hroot, ← hg]
        exact if_pos hroot
      · rw [if_neg hroot]
        exact if_neg hroot
    unfold addQuery
    rw [hparts, List.foldl_cons, addPart_of, if_pos rfl, foldl_addPart _ Nat.one_ne_zero,
      hkeywords _ (keywords_addTerms f _), addTerms_setKeywords, ← addTerms_append, ← htexts]

/-- What a search string makes of a filter. -/
structure Added (f : Filter) (query : String) (f' : Filter) : Prop where
  registry : f'.registry = f.registry
  /-- The terms of a registered field in a group stand behind the constraints that were
  given explicitly before. -/
  named : ∀ group field, f.registry.contains field →
    field ∈ (termsOf query group).map (·.field) →
    f'.constraints field group = explicit (f.constraints field group) ++
      ((termsOf query group).filter (·.field = field)).map termConstraint
  /-- Every other list is as it was. -/
  unnamed : ∀ group field,
    ¬ (f.registry.contains field ∧ field ∈ (termsOf query group).map (·.field)) →
    f'.constraints field group = f.constraints field group
  /-- New fields of a group come last, in the order of their first terms. -/
  fieldNames : ∀ group, f'.fieldNames group = f.fieldNames group ++
    (((termsOf query group).map (·.field)).filter fun name =>
      f.registry.contains name ∧ name ∉ f.fieldNames group).eraseDups
  /-- There are new groups only for terms of registered fields. -/
  numbers : ∀ group, group ∈ f'.groups.numbers ↔
    group ∈ f.groups.numbers ∨ ∃ t ∈ termsOf query group, f.registry.contains t.field
  keywords : f'.keywords = if rootText query = "" then f.keywords else some (rootText query)
  /-- The last term that names a registered field to sort by decides, wherever it stands
  in the string. -/
  sortField : f'.sortField =
    ((allTerms query).filterMap (sortChoice f.registry)).getLast?.or f.sortField
  sortOrder : f'.sortOrder =
    ((allTerms query).filterMap (orderChoice f.registry)).getLast?.getD f.sortOrder

/-- A search string does to a filter exactly what its terms and its root text say. -/
theorem added_addQuery (hf : f.Keyed) (query : String) : f.Added query (f.addQuery query) := by
  have hterms : ∀ group, inGroup group (numbered 0 (texts query)) = termsOf query group :=
    filter_numbered_texts query
  rw [addQuery_eq]
  constructor
  case registry => exact registry_addTerms f _
  case named =>
    intro group field hr hfield
    have hne : (termsOf query group).filter (·.field = field) ≠ [] := by
      obtain ⟨t, ht, rfl⟩ := List.mem_map.1 hfield
      exact List.ne_nil_of_mem (List.mem_filter.2 ⟨ht, by simp⟩)
    have := constraints_addTerms hf.ordered hr group (numbered 0 (texts query))
    rwa [hterms, if_neg hne] at this
  case unnamed =>
    intro group field hnot
    cases hr : f.registry.contains field with
    | false => exact constraints_addTerms_of_not_contains hf.ordered hr _
    | true =>
      have hnil : (termsOf query group).filter (·.field = field) = [] := by
        rw [List.filter_eq_nil_iff]
        intro t ht heq
        exact hnot ⟨hr, List.mem_map.2 ⟨t, ht, by simpa using heq⟩⟩
      have := constraints_addTerms hf.ordered hr group (numbered 0 (texts query))
      rwa [hterms, if_pos hnil] at this
  case fieldNames =>
    intro group
    have := fieldNames_addTerms hf.ordered group (numbered 0 (texts query))
    rwa [hterms] at this
  case numbers =>
    intro group
    have := mem_numbers_addTerms f group (numbered 0 (texts query))
    rwa [hterms] at this
  case keywords => rfl
  case sortField =>
    have := sortField_addTerms f (numbered 0 (texts query))
    rwa [map_snd_numbered] at this
  case sortOrder =>
    have := sortOrder_addTerms f (numbered 0 (texts query))
    rwa [map_snd_numbered] at this

end Filter

end FieldedSearch
