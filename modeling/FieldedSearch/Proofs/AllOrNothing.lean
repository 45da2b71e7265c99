-- SUMMARY: What a refused change leaves of a filter that is changed in place: all as it was, but for the defaults in front of a refused one.
import FieldedSearch.Proofs.Additions

/-!
# All or nothing

`Filter.change` makes a new filter or keeps the old one. Here a filter is changed in place: a
group comes into being, then a list in it, the defaults of the list are dropped, a constraint is
appended, and a failure undoes nothing of what was done before it. Both come to the same
(`Steps.outcome_ofChange`), since every change makes all of its checks before its first effect;
only several defaults are checked one after another.
-/

namespace FieldedSearch

/-! ## Updates of one place -/

theorem Entries.update_update {β : Type} (name : String) (f g : Option β → β)
    (entries : List (String × β)) :
    update name g (update name f entries) = update name (fun v => g (some (f v))) entries := by
  induction entries with
  | nil => simp [update]
  | cons e rest ih =>
    obtain ⟨n, v⟩ := e
    by_cases h : n = name
    · simp [update, h]
    · simp [update, h, ih]

theorem Groups.update_update (group : Int) (f g : FieldConstraints → FieldConstraints)
    (groups : Groups) : (groups.update group f).update group g = groups.update group (g ∘ f) := by
  induction groups with
  | nil => simp [update]
  | cons e rest ih =>
    obtain ⟨n, fields⟩ := e
    by_cases h : n = group
    · simp [update, h]
    · by_cases hlt : group < n
      · simp [update, h, hlt]
      · simp [update, h, hlt, ih]

/-! ## Steps -/

/-- Steps that change a filter in place. A failure ends them, and what was done before it stays
done. -/
abbrev Steps := EStateM Failure Filter

namespace Steps

variable {α β γ : Type} {f f' : Filter} {e : Failure}

/-- The filter that steps leave, and their failure if there is one. -/
def outcome (p : Steps α) (f : Filter) : Filter × Option Failure :=
  match p.run f with
  | .ok _ f' => (f', none)
  | .error e f' => (f', some e)

/-- Fail under a condition. -/
def refuseIf (condition : Prop) [Decidable condition] (e : Failure) : Steps Unit :=
  if condition then throw e else pure ()

/-- Change the fields of a group, which comes into being if it is not there. -/
def updateFields (group : Int) (g : FieldConstraints → FieldConstraints) : Steps Unit :=
  modify fun f => { f with groups := f.groups.update group g }

/-- Change the list of a field in a group, where it comes into being if it is not there. -/
def updateList (group : Int) (field : String) (g : List Constraint → List Constraint) :
    Steps Unit :=
  updateFields group (Entries.update field fun cs => g (cs.getD []))

/-- Put a constraint in. Its group comes into being and then its list, from which an explicit
constraint drops the defaults, and at last it is appended. -/
def put (field : String) (c : Constraint) (group : Int) : Steps Unit := do
  updateFields group id
  updateList group field id
  updateList group field fun cs => if c.isDefault then cs else cs.filter (!·.isDefault)
  updateList group field (· ++ [c])

/-- Add a constraint whose comparison and group are still to be checked. -/
def add (field : String) (value comparison : Value) (isDefault : Bool) (group : Int) :
    Steps Unit := do
  if (← get).registry.contains field then
    let c ← MonadExcept.ofExcept (Comparison.ofValue comparison)
    refuseIf (group < 0) (.negativeGroup group)
    put field ⟨value, c, isDefault⟩ group
  else
    modify (·.direct field value)

/-- Add a default to group 0. -/
def addDefault (entry : String × Value) : Steps Unit :=
  add entry.1 (Filter.defaultParts entry.2).1 (Filter.defaultParts entry.2).2 true 0

/-- Add a term to a group. -/
def addTerm (group : Nat) (t : Query.Term) : Steps Unit :=
  add t.field (t.value.elim .null .text) (.text t.comparison.symbol) false group

/-- Add the terms of a part, and the keywords if it is the root. -/
def addPart (p : Query.Part) : Steps Unit := do
  p.terms.forM (addTerm p.group)
  if p.group = 0 then modify (·.addKeywords p.text)

/-- Sort by a registered field: first the field is set, then the order. -/
def setSort (field : String) (order : Value) : Steps Unit := do
  let f ← get
  refuseIf (f.registry.contains field = false) (.invalidSortField field)
  modify fun f => { f with sortField := some field }
  modify fun f => { f with sortOrder := .ofValue order }

/-- A change, step by step. -/
def ofChange : Change → Steps Unit
  | .add (.text name) value comparison isDefault group => add name value comparison isDefault group
  | .add .. => pure ()
  | .addDefaults defaults => defaults.forM addDefault
  | .addQuery query => (Query.tokenize query).forM addPart
  | .setKeywords keywords => modify (·.setKeywords keywords)
  | .setSort (.text name) order => setSort name order
  | .setSort field _ => throw (.invalidSortField field.display)
  | .clearSort => modify (·.clearSort)
  | .clear => modify (·.clear)
  | .clearGroup group => updateFields group fun _ => []

/-! ## Outcomes -/

theorem outcome_bind (p : Steps α) (q : α → Steps β) (f : Filter) : outcome (p >>= q) f =
    match p.run f with
    | .ok a f' => outcome (q a) f'
    | .error e f' => (f', some e) := by
  simp only [outcome, EStateM.run_bind]
  cases p.run f <;> rfl

theorem outcome_bind_of_none {p : Steps Unit} (h : outcome p f = (f', none)) (q : Unit → Steps β) :
    outcome (p >>= q) f = outcome (q ()) f' := by
  rw [outcome_bind]
  unfold outcome at h
  cases hp : p.run f with
  | ok a f'' =>
    rw [hp] at h
    rw [(Prod.mk.inj h).1]
  | error e f'' =>
    rw [hp] at h
    cases h

theorem outcome_bind_of_some {p : Steps α} (h : outcome p f = (f', some e)) (q : α → Steps β) :
    outcome (p >>= q) f = (f', some e) := by
  rw [outcome_bind]
  unfold outcome at h
  cases hp : p.run f with
  | ok a f'' =>
    rw [hp] at h
    cases h
  | error e' f'' =>
    rw [hp] at h
    exact h

theorem outcome_refuseIf (condition : Prop) [Decidable condition] (e : Failure) (f : Filter) :
    outcome (refuseIf condition e) f = (f, if condition then some e else none) := by
  unfold refuseIf
  split <;> rfl

/-! ## Loops -/

theorem outcome_forM_cons (x : γ) (xs : List γ) (body : γ → Steps Unit) (f : Filter) :
    outcome ((x :: xs).forM body) f = outcome (body x >>= fun _ => xs.forM body) f := rfl

/-- A loop in which nothing is refused. -/
theorem outcome_forM_of_none {body : γ → Steps Unit} {g : Filter → γ → Filter}
    (h : ∀ f x, outcome (body x) f = (g f x, none)) (xs : List γ) (f : Filter) :
    outcome (xs.forM body) f = (xs.foldl g f, none) := by
  induction xs generalizing f with
  | nil => rfl
  | cons x xs ih => rw [outcome_forM_cons, outcome_bind_of_none (h f x), ih, List.foldl_cons]

/-- A loop fails where one of its rounds does, from the filter that those before it made. -/
theorem outcome_forM_eq_some_iff {body : γ → Steps Unit} {xs : List γ} :
    outcome (xs.forM body) f = (f', some e) ↔ ∃ before x after f'', xs = before ++ x :: after ∧
      outcome (before.forM body) f = (f'', none) ∧ outcome (body x) f'' = (f', some e) := by
  constructor
  · intro h
    induction xs generalizing f with
    | nil => cases h
    | cons x xs ih =>
      rw [outcome_forM_cons] at h
      rcases hx : outcome (body x) f with ⟨f'', e' | _⟩
      · rw [outcome_bind_of_none hx] at h
        obtain ⟨before, y, after, g, rfl, hbefore, hy⟩ := ih h
        refine ⟨x :: before, y, after, g, rfl, ?_, hy⟩
        rw [outcome_forM_cons, outcome_bind_of_none hx, hbefore]
      · rw [outcome_bind_of_some hx] at h
        exact ⟨[], x, xs, f, rfl, rfl, hx.trans h⟩
  · rintro ⟨before, x, after, f'', rfl, hbefore, hx⟩
    have hsplit : (before ++ x :: after).forM body =
        before.forM body >>= fun _ => (x :: after).forM body := List.forM_append
    rw [hsplit, outcome_bind_of_none hbefore, outcome_forM_cons, outcome_bind_of_some hx]

/-! ## Steps that are refused as a whole -/

/-- Steps that leave the filter as it is. -/
def IsCheck (p : Steps α) : Prop := ∀ f, (outcome p f).1 = f

/-- Steps that are never refused. -/
def IsSure (p : Steps α) : Prop := ∀ f, (outcome p f).2 = none

/-- Steps that leave the filter as it was where they are refused. -/
def IsAllOrNothing (p : Steps α) : Prop := ∀ f f' e, outcome p f = (f', some e) → f' = f

theorem isCheck_get : IsCheck (get : Steps Filter) := fun _ => rfl

theorem isCheck_ofExcept (x : Except Failure α) : IsCheck (MonadExcept.ofExcept x : Steps α) := by
  intro f
  cases x <;> rfl

theorem isCheck_refuseIf (condition : Prop) [Decidable condition] (e : Failure) :
    IsCheck (refuseIf condition e) := by
  intro f
  rw [outcome_refuseIf]

theorem isSure_modify (g : Filter → Filter) : IsSure (modify g) := fun _ => rfl

theorem IsSure.bind {p : Steps Unit} {q : Unit → Steps β} (hp : IsSure p)
    (hq : ∀ a, IsSure (q a)) : IsSure (p >>= q) := by
  intro f
  rw [outcome_bind_of_none (Prod.ext rfl (hp f))]
  exact hq () _

theorem IsSure.isAllOrNothing {p : Steps α} (hp : IsSure p) : IsAllOrNothing p := by
  intro f f' e h
  cases (congrArg Prod.snd h).symm.trans (hp f)

/-- What is checked before the first effect may fail. -/
theorem IsCheck.bind {p : Steps α} {q : α → Steps β} (hp : IsCheck p)
    (hq : ∀ a, IsAllOrNothing (q a)) : IsAllOrNothing (p >>= q) := by
  intro f f' e h
  -- whether or not the check fails, what follows it would start from the same filter
  have hf := hp f
  rw [outcome_bind] at h
  unfold outcome at hf
  cases hrun : p.run f with
  | ok a f'' =>
    rw [hrun] at h hf
    obtain rfl : f'' = f := hf
    exact hq a f'' f' e h
  | error e' f'' =>
    rw [hrun] at h hf
    obtain rfl : f'' = f := hf
    exact (Prod.mk.inj h).1.symm

theorem isSure_put (field : String) (c : Constraint) (group : Int) : IsSure (put field c group) :=
  (isSure_modify _).bind fun _ => (isSure_modify _).bind fun _ =>
    (isSure_modify _).bind fun _ => isSure_modify _

/-- Adding a constraint checks everything before the group comes into being. -/
theorem isAllOrNothing_add (field : String) (value comparison : Value) (isDefault : Bool)
    (group : Int) : IsAllOrNothing (add field value comparison isDefault group) := by
  -- the registry, the comparison and the group are checked in turn, and nothing behind them fails
  refine isCheck_get.bind fun f => ?_
  split
  · refine (isCheck_ofExcept _).bind fun c => ?_
    exact (isCheck_refuseIf _ _).bind fun _ => (isSure_put field _ group).isAllOrNothing
  · exact (isSure_modify _).isAllOrNothing

theorem isAllOrNothing_setSort (field : String) (order : Value) :
    IsAllOrNothing (setSort field order) :=
  isCheck_get.bind fun _ => (isCheck_refuseIf _ _).bind fun _ =>
    ((isSure_modify _).bind fun _ => isSure_modify _).isAllOrNothing

/-! ## Changes in place -/

/-- One after another, the effects of a constraint that is put in come to one. -/
theorem put_eq (field : String) (c : Constraint) (group : Int) :
    put field c group = updateFields group (·.add field c) := by
  funext f
  -- four updates of one group on the left, one on the right
  change EStateM.Result.ok () { f with groups := _ } = EStateM.Result.ok () { f with groups := _ }
  rw [Groups.update_update, Groups.update_update, Groups.update_update]
  congr 3
  funext fields
  simp only [Function.comp_apply, Entries.update_update]
  rfl

theorem outcome_add (field : String) (value comparison : Value) (isDefault : Bool) (group : Int)
    (f : Filter) : outcome (add field value comparison isDefault group) f =
      f.replaceBy (f.add field value comparison isDefault group) := by
  unfold add Filter.add
  rw [outcome_bind]
  change outcome (if f.registry.contains field then _ else _) f = _
  cases hr : f.registry.contains field with
  | false => rfl
  | true =>
    cases Comparison.ofValue comparison with
    | error e => rfl
    | ok c =>
      have hcheck := outcome_refuseIf (group < 0) (.negativeGroup group) f
      change outcome (refuseIf (group < 0) (.negativeGroup group) >>= fun _ =>
        put field ⟨value, c, isDefault⟩ group) f = _
      by_cases hg : group < 0
      · rw [if_pos hg] at hcheck
        rw [outcome_bind_of_some hcheck]
        simp only [if_pos hg, if_true]
        rfl
      · rw [if_neg hg] at hcheck
        rw [outcome_bind_of_none hcheck, put_eq]
        simp only [if_neg hg, if_true, Filter.insert, hr]
        rfl

theorem outcome_addDefaults (defaults : List (String × Value)) (f : Filter) :
    outcome (defaults.forM addDefault) f = f.addDefaults defaults := by
  induction defaults generalizing f with
  | nil => rfl
  | cons entry rest ih =>
    obtain ⟨field, v⟩ := entry
    have hentry : outcome (addDefault (field, v)) f = f.replaceBy _ :=
      outcome_add field (Filter.defaultParts v).1 (Filter.defaultParts v).2 true 0 f
    rw [outcome_forM_cons, Filter.addDefaults]
    cases hadd : f.add field (Filter.defaultParts v).1 (Filter.defaultParts v).2 true 0 with
    | error e =>
      rw [hadd] at hentry
      rw [outcome_bind_of_some hentry]
      simp only [hadd]
    | ok f' =>
      rw [hadd] at hentry
      rw [outcome_bind_of_none hentry, ih]
      simp only [hadd]

theorem outcome_addTerm (group : Nat) (f : Filter) (t : Query.Term) :
    outcome (addTerm group t) f = (f.addTerm group t, none) := by
  have hadd : f.add t.field (t.value.elim .null .text) (.text t.comparison.symbol) false group =
      .ok (f.addTerm group t) := by
    unfold Filter.add Filter.addTerm Filter.insert
    rw [Comparison.ofValue_eq_ok_iff.2 rfl]
    split
    · exact if_neg (by omega)
    · rfl
  unfold addTerm
  rw [outcome_add, hadd]
  rfl

theorem outcome_addPart (f : Filter) (p : Query.Part) :
    outcome (addPart p) f = (f.addPart p, none) := by
  unfold addPart Filter.addPart
  rw [outcome_bind_of_none (outcome_forM_of_none (fun f t => outcome_addTerm p.group f t) p.terms f)]
  by_cases hroot : p.group = 0
  · simp only [if_pos hroot]
    rfl
  · simp only [if_neg hroot]
    rfl

theorem outcome_setSort (field : String) (order : Value) (f : Filter) :
    outcome (setSort field order) f = f.replaceBy (f.setSort field order) := by
  unfold setSort Filter.setSort
  rw [outcome_bind]
  change outcome (refuseIf (f.registry.contains field = false) _ >>= _) f = _
  cases hr : f.registry.contains field with
  | false => rfl
  | true => rfl

/-- A change in place comes to what the change makes of the filter. -/
theorem outcome_ofChange (c : Change) (f : Filter) : outcome (ofChange c) f = f.change c := by
  cases c with
  | add field value comparison isDefault group =>
    cases field with
    | text name => exact outcome_add name value comparison isDefault group f
    | _ => rfl
  | addDefaults defaults => exact outcome_addDefaults defaults f
  | addQuery query => exact outcome_forM_of_none outcome_addPart (Query.tokenize query) f
  | setSort field order =>
    cases field with
    | text name => exact outcome_setSort name order f
    | _ => rfl
  | _ => rfl

/-! ## Refusals -/

theorem replaceBy_eq_some_iff {x : Except Failure Filter} :
    (f.replaceBy x).2 = some e ↔ x = .error e := by
  cases x with
  | ok f' => exact iff_of_false nofun nofun
  | error e' =>
    constructor
    · intro h
      exact congrArg Except.error (Option.some.inj h)
    · intro h
      exact congrArg some (Except.error.inj h)

/-- A constraint on a registered field is refused for its comparison first and then for the
number of its group, and one on any other field not at all. -/
theorem addTo_eq_error_iff {field value comparison : Value} {isDefault : Bool} {group : Int} :
    f.addTo field value comparison isDefault group = .error e ↔
      f.hasField field ∧
        ((∀ c : Comparison, comparison ≠ .text c.symbol) ∧ e = .notAComparison comparison ∨
          (∃ c : Comparison, comparison = .text c.symbol) ∧ group < 0 ∧
            e = .negativeGroup group) := by
  rw [← Comparison.ofValue_eq_error_iff]
  simp only [← Comparison.ofValue_eq_ok_iff]
  cases field with
  | text name =>
    change f.add name value comparison isDefault group = .error e ↔ f.registry.contains name ∧ _
    unfold Filter.add
    cases f.registry.contains name with
    | false => exact iff_of_false nofun nofun
    | true =>
      cases Comparison.ofValue comparison with
      | error e' => simp
      | ok c => by_cases hg : group < 0 <;> simp [hg, eq_comm]
  | _ => exact iff_of_false nofun nofun

theorem setSortBy_eq_error_iff {field order : Value} : f.setSortBy field order = .error e ↔
    f.hasField field = false ∧ e = .invalidSortField field.display := by
  have hrefused {failure : Failure} : (.error failure : Except Failure Filter) = .error e ↔
      false = false ∧ e = failure := by
    rw [Except.error.injEq, eq_self, true_and, eq_comm]
  cases field with
  | text name =>
    change f.setSort name order = .error e ↔
      f.registry.contains name = false ∧ e = .invalidSortField name
    unfold Filter.setSort
    cases f.registry.contains name with
    | false => exact hrefused
    | true => exact iff_of_false nofun nofun
  | _ => exact hrefused

theorem isAllOrNothing_ofChange {c : Change} (h : ∀ defaults, c ≠ .addDefaults defaults) :
    IsAllOrNothing (ofChange c) := by
  cases c with
  | add field value comparison isDefault group =>
    cases field with
    | text name => exact isAllOrNothing_add name value comparison isDefault group
    | _ => exact fun _ _ _ h => nomatch h
  | addDefaults defaults => exact absurd rfl (h defaults)
  | addQuery query =>
    refine IsSure.isAllOrNothing fun f => ?_
    rw [outcome_ofChange]
    rfl
  | setSort field order =>
    cases field with
    | text name => exact isAllOrNothing_setSort name order
    | _ => exact fun _ _ _ h => (Prod.mk.inj h).1.symm
  | _ => exact (isSure_modify _).isAllOrNothing

/-- A change in place comes to what the change makes of the filter. Where it is refused, the
filter is as it was, unless several defaults are added: then it is as the defaults in front of
the one that is refused leave it. A constraint is refused exactly if its field is registered and
its comparison is none or else its group has a negative number, and a sort exactly if its field is
not registered. -/
theorem all_or_nothing_ofChange (f : Filter) :
    (∀ c, outcome (ofChange c) f = f.change c) ∧
    (∀ c f' e, (∀ defaults, c ≠ .addDefaults defaults) →
      outcome (ofChange c) f = (f', some e) → f' = f) ∧
    (∀ field value comparison isDefault group e,
      (outcome (ofChange (.add field value comparison isDefault group)) f).2 = some e ↔
        f.hasField field ∧
          ((∀ c : Comparison, comparison ≠ .text c.symbol) ∧ e = .notAComparison comparison ∨
            (∃ c : Comparison, comparison = .text c.symbol) ∧ group < 0 ∧
              e = .negativeGroup group)) ∧
    (∀ field order e, (outcome (ofChange (.setSort field order)) f).2 = some e ↔
      f.hasField field = false ∧ e = .invalidSortField field.display) ∧
    ∀ defaults f' e, outcome (ofChange (.addDefaults defaults)) f = (f', some e) ↔
      ∃ before entry after, defaults = before ++ entry :: after ∧
        outcome (ofChange (.addDefaults before)) f = (f', none) ∧
        outcome (ofChange (.add (.text entry.1) (Filter.defaultParts entry.2).1
          (Filter.defaultParts entry.2).2 true 0)) f' = (f', some e) := by
  refine ⟨fun c => outcome_ofChange c f, fun c f' e hc => isAllOrNothing_ofChange hc f f' e,
    ?_, ?_, ?_⟩
  · intro field value comparison isDefault group e
    rw [outcome_ofChange, Filter.change, replaceBy_eq_some_iff, addTo_eq_error_iff]
  · intro field order e
    rw [outcome_ofChange, Filter.change, replaceBy_eq_some_iff, setSortBy_eq_error_iff]
  · intro defaults f' e
    refine outcome_forM_eq_some_iff.trans ?_
    constructor
    · rintro ⟨before, entry, after, f'', rfl, hbefore, hentry⟩
      obtain rfl := isAllOrNothing_add _ _ _ _ _ _ _ _ hentry
      exact ⟨before, entry, after, rfl, hbefore, hentry⟩
    · rintro ⟨before, entry, after, rfl, hbefore, hentry⟩
      exact ⟨before, entry, after, f', rfl, hbefore, hentry⟩

/-- The default in front of the one that is refused stands, and there is no trace of the others. -/
example : (outcome (ofChange (.addDefaults [("age", .int 1),
      ("age", .map [("value", .int 2), ("comparison", .text "=>")]), ("age", .int 3)]))
    (Filter.empty Filter.ages)).1.groups = [(0, [("age", [⟨.int 1, .equals, true⟩])])] := rfl

end Steps

end FieldedSearch
