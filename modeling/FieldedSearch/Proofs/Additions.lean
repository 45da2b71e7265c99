-- SUMMARY: Which constraints stand after a run of changes: the explicit ones, and the defaults that none of these replaced.
import Mathlib.Data.List.Induction
import FieldedSearch.Proofs.Changes

/-!
# What a run of changes adds

Every change proposes constraints: one, those of several defaults, or one for each term of
a search string. A proposal is accepted if its field is registered, its comparison is one
and its group has a number from 0; the proposals behind one that is refused are not made.
The list of a field in a group is what is left standing of the constraints accepted for it
since the group was last cleared, and the fields of a group are in the order in which they
were first accepted.
-/

namespace FieldedSearch

/-! ## Constraints that stand -/

namespace Constraint

/-- The constraints of a list without the defaults that have an explicit one behind them. -/
def standing : List Constraint → List Constraint
  | [] => []
  | c :: cs => if c.isDefault && cs.any (!·.isDefault) then standing cs else c :: standing cs

theorem standing_sublist (cs : List Constraint) : (standing cs).Sublist cs := by
  induction cs with
  | nil => exact .slnil
  | cons c cs ih =>
    unfold standing
    split
    · exact ih.cons c
    · exact ih.cons_cons c

/-- A constraint that is added to a list acts on what stands of it. -/
theorem standing_concat (cs : List Constraint) (c : Constraint) :
    standing (cs ++ [c]) = c.addTo (standing cs) := by
  induction cs with
  | nil => cases h : c.isDefault <;> simp [standing, addTo, h]
  | cons d cs ih =>
    rw [List.cons_append, standing, standing, ih, List.any_append]
    cases hd : d.isDefault <;> cases hc : c.isDefault <;> cases hcs : cs.any (!·.isDefault) <;>
      simp [addTo, hc, hd]

theorem foldl_addTo_standing (cs ds : List Constraint) :
    ds.foldl (fun cs d => d.addTo cs) (standing cs) = standing (cs ++ ds) := by
  induction ds generalizing cs with
  | nil => rw [List.append_nil]; rfl
  | cons d ds ih => rw [List.foldl_cons, ← standing_concat, ih, List.append_assoc]; rfl

end Constraint

/-! ## Additions -/

theorem Comparison.ofValue_eq_ok_iff {v : Value} {c : Comparison} :
    ofValue v = .ok c ↔ v = .text c.symbol := by
  constructor
  · intro h
    unfold ofValue at h
    split at h
    · next c' hc =>
      obtain rfl := Except.ok.inj h
      cases v with
      | text s =>
        have hsymbol := List.find?_some hc
        exact congrArg Value.text (eq_of_beq hsymbol).symm
      | _ => cases hc
    · cases h
  · rintro rfl
    simp [ofValue, Value.text?]

theorem Comparison.ofValue_eq_error_iff {v : Value} {e : Failure} :
    ofValue v = .error e ↔ (∀ c : Comparison, v ≠ .text c.symbol) ∧ e = .notAComparison v := by
  cases h : ofValue v with
  | ok c =>
    refine iff_of_false nofun fun hnone => ?_
    exact hnone.1 c (ofValue_eq_ok_iff.1 h)
  | error e' =>
    have he : e' = .notAComparison v := by
      unfold ofValue at h
      split at h
      · cases h
      · exact (Except.error.inj h).symm
    constructor
    · rintro ⟨⟩
      refine ⟨fun c hc => ?_, he⟩
      cases h.symm.trans (ofValue_eq_ok_iff.2 hc)
    · rintro ⟨-, rfl⟩
      rw [he]

/-- A constraint that is accepted, with its group and its field. -/
structure Addition where
  group : Int
  field : String
  constraint : Constraint

/-- A constraint of which nothing is checked yet. -/
structure Proposal where
  field : String
  value : Value
  comparison : Value
  isDefault : Bool
  group : Int

namespace Proposal

/-- What is added for a proposal: it is accepted if its field is registered, its comparison
is one and its group has a number from 0. -/
def addition? (r : Registry) (p : Proposal) : Option Addition :=
  match Comparison.ofValue p.comparison with
  | .ok c =>
    if r.contains p.field ∧ 0 ≤ p.group then
      some ⟨p.group, p.field, p.value, c, p.isDefault⟩
    else none
  | .error _ => none

/-- A proposal is refused if it is not accepted although its field is registered; one with
any other field is only passed over. -/
def isRefused (r : Registry) (p : Proposal) : Bool :=
  r.contains p.field && (p.addition? r).isNone

/-- What is added for proposals that are made one after another: nothing from the first on
that is refused. -/
def additions (r : Registry) (ps : List Proposal) : List Addition :=
  (ps.takeWhile (!·.isRefused r)).filterMap (addition? r)

/-- The constraint that an entry of a table of defaults proposes. -/
def ofDefault (entry : String × Value) : Proposal :=
  ⟨entry.1, (Filter.defaultParts entry.2).1, (Filter.defaultParts entry.2).2, true, 0⟩

/-- The constraint that a term in a group proposes. -/
def ofTerm (group : Nat) (t : Query.Term) : Proposal :=
  ⟨t.field, t.value.elim .null .text, .text t.comparison.symbol, false, group⟩

variable {r : Registry} {p : Proposal}

theorem additions_cons_of_isRefused (h : p.isRefused r = true) (ps : List Proposal) :
    additions r (p :: ps) = [] := by
  simp [additions, h]

theorem additions_cons_of_not_isRefused (h : p.isRefused r = false) (ps : List Proposal) :
    additions r (p :: ps) = (p.addition? r).toList ++ additions r ps := by
  unfold additions
  rw [List.takeWhile_cons, h]
  cases ha : p.addition? r <;> simp [ha]

theorem addition?_ofTerm (group : Nat) (t : Query.Term) :
    (ofTerm group t).addition? r =
      if r.contains t.field then some ⟨group, t.field, Filter.termConstraint t⟩ else none := by
  simp [addition?, ofTerm, Comparison.ofValue, Value.text?, Filter.termConstraint]

/-- The comparison of a term is one, and its group has a number from 0. -/
theorem isRefused_ofTerm (group : Nat) (t : Query.Term) : (ofTerm group t).isRefused r = false := by
  unfold isRefused
  rw [addition?_ofTerm]
  cases hr : r.contains t.field <;> simp [ofTerm, hr]

end Proposal

namespace Change

/-- The constraints that a change proposes, in order. -/
def proposals : Change → List Proposal
  | .add (.text field) value comparison isDefault group =>
    [⟨field, value, comparison, isDefault, group⟩]
  | .addDefaults defaults => defaults.map Proposal.ofDefault
  | .addQuery query =>
    (Query.numbered 0 (Query.texts query)).map fun (group, t) => .ofTerm group t
  | _ => []

/-- The constraints that a change adds. -/
def additions (r : Registry) (c : Change) : List Addition := Proposal.additions r c.proposals

/-- Whether a change removes the constraints of a group. -/
def clears (group : Int) : Change → Bool
  | .clear => true
  | .clearGroup g => g = group
  | _ => false

/-- The changes behind the last one that clears a group. -/
def sinceCleared (group : Int) (changes : List Change) : List Change :=
  (changes.reverse.takeWhile (!·.clears group)).reverse

/-- The constraints added to a group since it was last cleared. -/
def accepted (r : Registry) (group : Int) (changes : List Change) : List Addition :=
  ((sinceCleared group changes).flatMap (additions r)).filter (·.group = group)

variable {r : Registry} {group : Int}

theorem sinceCleared_concat (changes : List Change) (c : Change) :
    sinceCleared group (changes ++ [c]) =
      if c.clears group then [] else sinceCleared group changes ++ [c] := by
  unfold sinceCleared
  rw [List.reverse_append, List.reverse_singleton, List.singleton_append, List.takeWhile_cons]
  cases c.clears group <;> simp

theorem accepted_concat (changes : List Change) (c : Change) :
    accepted r group (changes ++ [c]) =
      if c.clears group then []
      else accepted r group changes ++ (additions r c).filter (·.group = group) := by
  unfold accepted
  rw [sinceCleared_concat]
  split
  · rfl
  · rw [List.flatMap_append, List.filter_append, List.flatMap_singleton]

end Change

/-! ## Groups with additions -/

namespace Groups

variable {groups : Groups} {group : Int} {field : String}

/-- Groups with more constraints. -/
def addAll (groups : Groups) (as : List Addition) : Groups :=
  as.foldl (fun groups a => groups.update a.group (·.add a.field a.constraint)) groups

theorem addAll_cons (groups : Groups) (a : Addition) (as : List Addition) :
    groups.addAll (a :: as) = (groups.update a.group (·.add a.field a.constraint)).addAll as := rfl

theorem addAll_append (groups : Groups) (as bs : List Addition) :
    groups.addAll (as ++ bs) = (groups.addAll as).addAll bs := List.foldl_append

/-- Additions act on a list one after another, those with another group or field not at all. -/
theorem constraints_addAll (h : groups.Ordered) (as : List Addition) (group : Int)
    (field : String) :
    (groups.addAll as).constraints group field =
      ((as.filter fun a => a.group = group ∧ a.field = field).map (·.constraint)).foldl
        (fun cs c => c.addTo cs) (groups.constraints group field) := by
  induction as generalizing groups with
  | nil => rfl
  | cons a as ih =>
    rw [addAll_cons, ih (ordered_update h), constraints_update_add h, List.filter_cons]
    by_cases ha : a.group = group ∧ a.field = field
    · obtain ⟨rfl, rfl⟩ := ha
      simp
    · have hne : ¬ (group = a.group ∧ field = a.field) := fun heq => ha ⟨heq.1.symm, heq.2.symm⟩
      simp [ha, hne]

/-- The fields of a group are those of its additions, in the order of the first ones. -/
theorem names_addAll (h : groups.Ordered) {names : List String}
    (hnames : Entries.names (groups.fields group) = names.eraseDups) (as : List Addition) :
    Entries.names ((groups.addAll as).fields group) =
      (names ++ (as.filter (·.group = group)).map (·.field)).eraseDups := by
  induction as generalizing groups names with
  | nil => rw [List.filter_nil, List.map_nil, List.append_nil]; exact hnames
  | cons a as ih =>
    rw [addAll_cons, List.filter_cons]
    by_cases ha : a.group = group
    · have hstep : Entries.names ((groups.update a.group (·.add a.field a.constraint)).fields group) =
          (names ++ [a.field]).eraseDups := by
        rw [names_update_add h, hnames, List.eraseDups_append]
        by_cases hmem : a.field ∈ names <;>
          simp [ha, hmem, List.removeAll, List.eraseDups_cons]
      rw [ih (ordered_update h) hstep]
      simp [ha]
    · have hstep : Entries.names ((groups.update a.group (·.add a.field a.constraint)).fields group) =
          names.eraseDups := by
        rw [names_update_add h, if_neg fun heq => ha heq.1.symm, hnames]
      rw [ih (ordered_update h) hstep]
      simp [ha]

end Groups

/-! ## Changes as additions -/

namespace Filter

open Query

variable {f : Filter} {r : Registry} {p : Proposal} {group : Int} {field : String}

theorem add_of_isRefused (h : p.isRefused f.registry = true) :
    ∃ e, f.add p.field p.value p.comparison p.isDefault p.group = .error e := by
  obtain ⟨hr, hnone⟩ := Bool.and_eq_true_iff.1 h
  unfold Filter.add
  unfold Proposal.addition? at hnone
  cases hc : Comparison.ofValue p.comparison with
  | error e => exact ⟨e, by rw [if_pos hr]⟩
  | ok c =>
    have hg : p.group < 0 := by
      rw [hc] at hnone
      by_contra hg
      simp [hr, Int.not_lt.1 hg] at hnone
    exact ⟨.negativeGroup p.group, by rw [if_pos hr]; exact if_pos hg⟩

/-- A proposal that is not refused adds to the groups what becomes of it. -/
theorem add_of_not_isRefused (h : p.isRefused f.registry = false) :
    ∃ f', f.add p.field p.value p.comparison p.isDefault p.group = .ok f' ∧
      f'.registry = f.registry ∧
      f'.groups = f.groups.addAll (p.addition? f.registry).toList := by
  unfold Filter.add
  unfold Proposal.isRefused Proposal.addition? at h
  unfold Proposal.addition?
  cases hr : f.registry.contains p.field with
  | false =>
    refine ⟨_, rfl, registry_direct _ _ _, ?_⟩
    rw [groups_direct]
    cases Comparison.ofValue p.comparison <;> rfl
  | true =>
    rw [hr] at h
    cases hc : Comparison.ofValue p.comparison with
    | error e => simp [hc] at h
    | ok c =>
      have hg : 0 ≤ p.group := by
        by_contra hg
        simp [hc, hg] at h
      simp [Int.not_lt.2 hg, hg, Filter.insert, hr, Groups.addAll]

/-- Whether or not a proposal is accepted, the groups have what is added for it. -/
theorem groups_replaceBy_add (f : Filter) (p : Proposal) :
    (f.replaceBy (f.add p.field p.value p.comparison p.isDefault p.group)).1.groups =
      f.groups.addAll (Proposal.additions f.registry [p]) := by
  cases h : p.isRefused f.registry with
  | true =>
    obtain ⟨e, he⟩ := add_of_isRefused h
    rw [he, Proposal.additions_cons_of_isRefused h]
    rfl
  | false =>
    obtain ⟨f', hf', -, hgroups⟩ := add_of_not_isRefused h
    rw [hf', Proposal.additions_cons_of_not_isRefused h]
    exact hgroups.trans (congrArg f.groups.addAll (List.append_nil _).symm)

theorem groups_addDefaults (f : Filter) (defaults : List (String × Value)) :
    (f.addDefaults defaults).1.groups =
      f.groups.addAll (Proposal.additions f.registry (defaults.map Proposal.ofDefault)) := by
  induction defaults generalizing f with
  | nil => rfl
  | cons entry rest ih =>
    obtain ⟨field, value⟩ := entry
    rw [List.map_cons, Filter.addDefaults]
    cases h : (Proposal.ofDefault (field, value)).isRefused f.registry with
    | true =>
      obtain ⟨e, he⟩ := add_of_isRefused h
      simp only [Proposal.ofDefault] at he
      rw [Proposal.additions_cons_of_isRefused h]
      simp only [he]
      rfl
    | false =>
      obtain ⟨f', hf', hregistry, hgroups⟩ := add_of_not_isRefused h
      simp only [Proposal.ofDefault] at hf'
      rw [Proposal.additions_cons_of_not_isRefused h, Groups.addAll_append, ← hgroups, ← hregistry,
        ← ih f']
      simp only [hf']

theorem groups_addTerms (f : Filter) (ts : List (Nat × Term)) :
    (f.addTerms ts).groups = f.groups.addAll
      (Proposal.additions f.registry (ts.map fun (group, t) => .ofTerm group t)) := by
  induction ts generalizing f with
  | nil => rfl
  | cons p ts ih =>
    obtain ⟨i, t⟩ := p
    rw [addTerms_cons, ih, addTerm_eq, List.map_cons,
      Proposal.additions_cons_of_not_isRefused (Proposal.isRefused_ofTerm i t),
      Proposal.addition?_ofTerm, Groups.addAll_append]
    cases f.registry.contains t.field <;> rfl

private theorem groups_setSort (f : Filter) (field order : Value) :
    (f.change (.setSort field order)).1.groups = f.groups := by
  cases field with
  | text name =>
    simp only [Filter.change, setSortBy, Filter.setSort]
    split <;> rfl
  | _ => rfl

/-- A change that clears no group adds its constraints to the groups, and does nothing else
to them. -/
theorem groups_change (f : Filter) {c : Change} (h : ∀ group, c.clears group = false) :
    (f.change c).1.groups = f.groups.addAll (c.additions f.registry) := by
  cases c with
  | add field value comparison isDefault group =>
    cases field with
    | text field => exact groups_replaceBy_add f ⟨field, value, comparison, isDefault, group⟩
    | _ => rfl
  | addDefaults defaults => exact groups_addDefaults f defaults
  | addQuery query =>
    change (f.addQuery query).groups = _
    rw [addQuery_eq]
    exact groups_addTerms f _
  | setSort field order => exact groups_setSort f field order
  | clear => exact absurd (h 0) Bool.noConfusion
  | clearGroup group => exact absurd (h group) (by simp [Change.clears])
  | _ => rfl

theorem run_concat (f : Filter) (changes : List Change) (c : Change) :
    f.run (changes ++ [c]) = ((f.run changes).change c).1 := by
  unfold run
  rw [List.foldl_append]
  rfl

/-- A change that clears a group leaves nothing in it. -/
theorem fields_change_of_clears (hf : f.groups.Ordered) {c : Change}
    (h : c.clears group = true) : (f.change c).1.groups.fields group = [] := by
  cases c with
  | clear => rfl
  | clearGroup g =>
    obtain rfl : g = group := by simpa [Change.clears] using h
    exact (Groups.fields_update hf g).trans (if_pos rfl)
  | _ => exact absurd h Bool.noConfusion

/-- A change that clears other groups only does nothing to a group that it does not add to. -/
theorem fields_change_of_not_clears (hf : f.groups.Ordered) {c : Change}
    (h : c.clears group = false) :
    (f.change c).1.groups.fields group =
      (f.groups.addAll (c.additions f.registry)).fields group := by
  by_cases hall : ∀ g, c.clears g = false
  · rw [groups_change f hall]
  · cases c with
    | clear => exact absurd h Bool.noConfusion
    | clearGroup g =>
      have hne : group ≠ g := by
        rintro rfl
        simp [Change.clears] at h
      exact (Groups.fields_update hf group).trans (if_neg hne)
    | _ => exact absurd (fun _ => rfl) hall

/-! ## Runs -/

/-- The constraints accepted for a field of a group since it was last cleared. -/
def acceptedFor (r : Registry) (group : Int) (field : String) (changes : List Change) :
    List Constraint :=
  ((Change.accepted r group changes).filter (·.field = field)).map (·.constraint)

theorem constraints_change (hf : f.groups.Ordered) {c : Change} (h : c.clears group = false) :
    (f.change c).1.constraints field group =
      (((c.additions f.registry).filter fun a => a.group = group ∧ a.field = field).map
        (·.constraint)).foldl (fun cs d => d.addTo cs) (f.constraints field group) := by
  unfold Filter.constraints
  rw [← Groups.constraints_addAll hf]
  unfold Groups.constraints
  rw [fields_change_of_not_clears hf h]

/-- A list holds what stands of the constraints accepted for it since the last clear. -/
theorem constraints_run (r : Registry) (changes : List Change) (group : Int) (field : String) :
    ((empty r).run changes).constraints field group =
      Constraint.standing (acceptedFor r group field changes) := by
  induction changes using List.reverseRecOn with
  | nil => rfl
  | append_singleton changes c ih =>
    have hf := (wellFormed_run r changes).ordered
    unfold acceptedFor at ih ⊢
    rw [run_concat, Change.accepted_concat]
    cases hc : c.clears group with
    | true =>
      unfold Filter.constraints Groups.constraints
      rw [fields_change_of_clears hf hc]
      rfl
    | false =>
      rw [constraints_change hf hc, ih, registry_run, Constraint.foldl_addTo_standing,
        if_neg Bool.false_ne_true, List.filter_append, List.map_append, List.filter_filter]
      congr 4
      funext a
      rw [Bool.decide_and, Bool.and_comm]

/-- The fields of a group stand in the order of their first accepted constraints since the
last clear. -/
theorem fieldNames_run (r : Registry) (changes : List Change) (group : Int) :
    ((empty r).run changes).fieldNames group =
      ((Change.accepted r group changes).map (·.field)).eraseDups := by
  induction changes using List.reverseRecOn with
  | nil => rfl
  | append_singleton changes c ih =>
    have hf := (wellFormed_run r changes).ordered
    unfold fieldNames at ih ⊢
    rw [run_concat, Change.accepted_concat]
    cases hc : c.clears group with
    | true => rw [fields_change_of_clears hf hc]; rfl
    | false =>
      rw [fields_change_of_not_clears hf hc, Groups.names_addAll hf ih, registry_run,
        if_neg Bool.false_ne_true, List.map_append]
      rfl

/-- Additions to other groups and other fields do not change a list. -/
theorem constraints_run_concat (r : Registry) (changes : List Change) {c : Change}
    (hclears : c.clears group = false)
    (hadditions : ∀ a ∈ c.additions r, ¬ (a.group = group ∧ a.field = field)) :
    ((empty r).run (changes ++ [c])).constraints field group =
      ((empty r).run changes).constraints field group := by
  have hnil : (c.additions r).filter (fun a => a.group = group ∧ a.field = field) = [] := by
    rw [List.filter_eq_nil_iff]
    exact fun a ha h => hadditions a ha (of_decide_eq_true h)
  rw [run_concat, constraints_change (wellFormed_run r changes).ordered hclears, registry_run]
  change (List.map _ (List.filter _ (c.additions r))).foldl _ _ = _
  rw [hnil]
  rfl

/-- After any run of changes, refused ones included, every list is the subsequence of the
constraints accepted for it since the last clear that are explicit or are defaults with no
later explicit one, the fields of every group stand in the order of their first accepted
constraints, and what is added elsewhere leaves a list alone. -/
theorem standing_run (r : Registry) (changes : List Change) (group : Int) :
    (∀ field, ((empty r).run changes).constraints field group =
      Constraint.standing (acceptedFor r group field changes)) ∧
    ((empty r).run changes).fieldNames group =
      ((Change.accepted r group changes).map (·.field)).eraseDups ∧
    ∀ field, ∀ c : Change, c.clears group = false →
      (∀ a ∈ c.additions r, ¬ (a.group = group ∧ a.field = field)) →
      ((empty r).run (changes ++ [c])).constraints field group =
        ((empty r).run changes).constraints field group :=
  ⟨constraints_run r changes group, fieldNames_run r changes group,
    fun _ _ hclears hadditions => constraints_run_concat r changes hclears hadditions⟩

/-- A default, a constraint with no comparison, a default of another group, an explicit
constraint and a default behind it. -/
def ageChanges : List Change :=
  [.add (.text "age") (.int 1) (.text ":") true 0, .add (.text "age") (.int 2) (.text "=>") false 0,
    .add (.text "age") (.int 3) (.text ":") true 1, .add (.text "age") (.int 4) (.text ">") false 0,
    .addDefaults [("name", .text "x"), ("age", .int 5)]]

theorem standing_run_ageChanges :
    ((empty ages).run ageChanges).constraints "age" 0 =
      [⟨.int 4, .greater, false⟩, ⟨.int 5, .equals, true⟩] ∧
    ((empty ages).run ageChanges).fieldNames 0 = ["age"] ∧
    ((empty ages).run (ageChanges ++ [.add (.text "age") (.int 6) (.text ":") false 1])).constraints
      "age" 0 = [⟨.int 4, .greater, false⟩, ⟨.int 5, .equals, true⟩] := by
  obtain ⟨hconstraints, hnames, hframe⟩ := standing_run ages ageChanges 0
  have hage := hconstraints "age"
  refine ⟨hage, hnames.trans (by decide +kernel), ?_⟩
  refine (hframe "age" _ rfl fun a ha h => ?_).trans hage
  obtain rfl := List.mem_singleton.1 ha
  exact absurd h.1 (by decide)

end Filter

end FieldedSearch
