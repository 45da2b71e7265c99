-- SUMMARY: Groups as a table: what an update changes, and when two tables are equal.
import FieldedSearch.Filter

/-!
# Groups as a table

The numbers of the groups ascend, and no group names a field twice. So a table of
groups is determined by which numbers there are, which fields each group has in which
order, and which constraints stand under each field.
-/

namespace FieldedSearch

/-! ## Named entries -/

namespace Entries

variable {β : Type} {a b : List (String × β)} {name : String}

theorem get?_cons_self (name : String) (v : β) (rest : List (String × β)) :
    get? ((name, v) :: rest) name = some v := by
  simp [get?]

theorem get?_cons_of_ne {n : String} (h : name ≠ n) (v : β) (rest : List (String × β)) :
    get? ((n, v) :: rest) name = get? rest name := by
  have hb : (name == n) = false := by simpa using h
  simp [get?, List.lookup_cons, hb]

theorem mem_of_lookup {α : Type} [BEq α] [LawfulBEq α] {entries : List (α × β)} {k : α} {v : β}
    (h : entries.lookup k = some v) : (k, v) ∈ entries := by
  obtain ⟨l₁, l₂, rfl, -⟩ := List.lookup_eq_some_iff.1 h
  exact List.mem_append_right l₁ List.mem_cons_self

theorem get?_of_mem {v : β} (ha : (names a).Nodup) (h : (name, v) ∈ a) : get? a name = some v := by
  induction a with
  | nil => simp at h
  | cons e rest ih =>
    obtain ⟨n, w⟩ := e
    simp only [names, List.map_cons, List.nodup_cons] at ha
    rcases List.mem_cons.1 h with heq | h
    · obtain ⟨rfl, rfl⟩ := Prod.mk.inj heq
      exact get?_cons_self _ _ _
    · have hn : name ≠ n := by
        intro heq
        exact ha.1 (List.mem_map.2 ⟨(name, v), h, heq⟩)
      rw [get?_cons_of_ne hn]
      exact ih ha.2 h

theorem get?_eq_none_iff : get? a name = none ↔ name ∉ names a := by
  rw [← Registry.lookup_isSome_iff, Bool.not_eq_true, Option.isSome_eq_false_iff,
    Option.isNone_iff_eq_none]

/-- Tables with the same names in the same order, and the same under each, are equal. -/
theorem ext_get? (ha : (names a).Nodup) (hn : names a = names b)
    (h : ∀ name, get? a name = get? b name) : a = b := by
  induction a generalizing b with
  | nil =>
    cases b with
    | nil => rfl
    | cons e b => simp [names] at hn
  | cons e a ih =>
    cases b with
    | nil => simp [names] at hn
    | cons e' b =>
      obtain ⟨n, v⟩ := e
      obtain ⟨n', v'⟩ := e'
      simp only [names, List.map_cons, List.nodup_cons] at ha
      obtain ⟨rfl, hnames⟩ : n = n' ∧ names a = names b := by simpa [names] using hn
      have hv := h n
      rw [get?_cons_self, get?_cons_self] at hv
      obtain rfl := Option.some.inj hv
      congr 1
      apply ih ha.2 hnames
      intro name
      by_cases hname : name = n
      · subst hname
        rw [get?_eq_none_iff.2 ha.1, get?_eq_none_iff.2 (hnames ▸ ha.1)]
      · have := h name
        rwa [get?_cons_of_ne hname, get?_cons_of_ne hname] at this

end Entries

/-! ## Groups -/

namespace Groups

variable {groups other : Groups} {group g : Int} {f : FieldConstraints → FieldConstraints}

/-- The numbers of the groups. -/
def numbers (groups : Groups) : List Int := groups.map (·.1)

/-- The numbers of the groups ascend. -/
def Ordered (groups : Groups) : Prop := groups.numbers.Pairwise (· < ·)

@[simp] theorem ordered_nil : Ordered [] := List.Pairwise.nil

theorem ordered_cons {fields : FieldConstraints} :
    Ordered ((g, fields) :: groups) ↔ (∀ g' ∈ groups.numbers, g < g') ∧ groups.Ordered := by
  simp [Ordered, numbers]

theorem lookup_eq_none_iff : groups.lookup g = none ↔ g ∉ groups.numbers := by
  rw [List.lookup_eq_none_iff, numbers, List.mem_map, not_exists]
  constructor
  · rintro h e ⟨he, rfl⟩
    simpa using h e he
  · intro h e he
    have : g ≠ e.1 := fun heq => h e ⟨he, heq.symm⟩
    simpa using this

theorem fields_of_not_mem (h : g ∉ groups.numbers) : groups.fields g = [] := by
  rw [Groups.fields, lookup_eq_none_iff.2 h]
  rfl

theorem mem_numbers_update :
    g ∈ (groups.update group f).numbers ↔ g = group ∨ g ∈ groups.numbers := by
  induction groups with
  | nil => simp [update, numbers]
  | cons e rest ih =>
    obtain ⟨n, fields⟩ := e
    simp only [numbers] at ih
    simp only [update]
    split
    · next h => subst h; simp [numbers]
    · split
      · simp [numbers]
      · simp only [numbers, List.map_cons, List.mem_cons, ih]
        exact or_left_comm

theorem ordered_update (h : groups.Ordered) : (groups.update group f).Ordered := by
  induction groups with
  | nil => simp [update, Ordered, numbers]
  | cons e rest ih =>
    obtain ⟨n, fields⟩ := e
    obtain ⟨hn, hrest⟩ := ordered_cons.1 h
    simp only [update]
    split
    · exact ordered_cons.2 ⟨hn, hrest⟩
    · split
      · next hlt =>
        refine ordered_cons.2 ⟨?_, h⟩
        intro g' hg'
        rcases List.mem_cons.1 hg' with rfl | hg'
        · exact hlt
        · exact Int.lt_trans hlt (hn g' hg')
      · next hne hnlt =>
        refine ordered_cons.2 ⟨?_, ih hrest⟩
        intro g' hg'
        rcases mem_numbers_update.1 hg' with rfl | hg'
        · omega
        · exact hn g' hg'

theorem fields_cons_self (fields : FieldConstraints) :
    Groups.fields ((g, fields) :: groups) g = fields := by
  simp [Groups.fields]

theorem fields_cons_of_ne {n : Int} (h : g ≠ n) (fields : FieldConstraints) :
    Groups.fields ((n, fields) :: groups) g = groups.fields g := by
  have hb : (g == n) = false := by simpa using h
  simp [Groups.fields, List.lookup_cons, hb]

theorem fields_of_mem {fields : FieldConstraints} (h : groups.Ordered) (hm : (g, fields) ∈ groups) :
    groups.fields g = fields := by
  induction groups with
  | nil => contradiction
  | cons e rest ih =>
    obtain ⟨n, fields'⟩ := e
    obtain ⟨hn, hrest⟩ := ordered_cons.1 h
    rcases List.mem_cons.1 hm with heq | hm
    · obtain ⟨rfl, rfl⟩ := Prod.mk.inj heq
      exact fields_cons_self fields
    · have hlt : n < g := hn g (List.mem_map.2 ⟨(g, fields), hm, rfl⟩)
      rw [fields_cons_of_ne (Int.ne_of_gt hlt)]
      exact ih hrest hm

/-- An update changes the group of its number and no other one. -/
theorem fields_update (h : groups.Ordered) (g : Int) :
    (groups.update group f).fields g =
      if g = group then f (groups.fields group) else groups.fields g := by
  induction groups with
  | nil =>
    by_cases hg : g = group
    · subst hg
      unfold update
      rw [fields_cons_self, if_pos rfl]
      rfl
    · unfold update
      rw [fields_cons_of_ne hg, if_neg hg]
  | cons e rest ih =>
    obtain ⟨n, fields⟩ := e
    obtain ⟨hn, hrest⟩ := ordered_cons.1 h
    simp only [update]
    split
    · next hn =>
      subst hn
      by_cases hg : g = n
      · subst hg
        rw [fields_cons_self, fields_cons_self, if_pos rfl]
      · rw [fields_cons_of_ne hg, fields_cons_of_ne hg, if_neg hg]
    · next hne =>
      split
      · next hlt =>
        have hgroup : group ∉ Groups.numbers ((n, fields) :: rest) := by
          intro hm
          rcases List.mem_cons.1 hm with rfl | hm
          · omega
          · exact absurd (hn group hm) (by omega)
        by_cases hg : g = group
        · subst hg
          rw [fields_cons_self, if_pos rfl, fields_of_not_mem hgroup]
        · rw [fields_cons_of_ne hg, if_neg hg]
      · by_cases hg : g = n
        · subst hg
          rw [fields_cons_self, fields_cons_self, if_neg hne]
        · rw [fields_cons_of_ne hg, ih hrest, fields_cons_of_ne hg,
            fields_cons_of_ne (fun h => hne h.symm)]

/-- Tables with the same numbers begin with the same one, and behind it they have the same
numbers again. -/
private theorem numbers_tail {n n' : Int}
    (hlt : ∀ g ∈ groups.numbers, n < g) (hlt' : ∀ g ∈ other.numbers, n' < g)
    (h : ∀ g, g = n ∨ g ∈ groups.numbers ↔ g = n' ∨ g ∈ other.numbers) :
    n = n' ∧ ∀ g, g ∈ groups.numbers ↔ g ∈ other.numbers := by
  obtain rfl : n = n' := by
    rcases (h n).1 (.inl rfl) with hn | hn
    · exact hn
    · rcases (h n').2 (.inl rfl) with hn' | hn'
      · exact hn'.symm
      · exact absurd (hlt n' hn') (Int.lt_asymm (hlt' n hn))
  refine ⟨rfl, fun g => ⟨fun hg => ?_, fun hg => ?_⟩⟩
  · exact ((h g).1 (.inr hg)).resolve_left (Int.ne_of_gt (hlt g hg))
  · exact ((h g).2 (.inr hg)).resolve_left (Int.ne_of_gt (hlt' g hg))

/-- Groups in order are determined by their numbers and by the fields of each. -/
theorem ext_fields (hg : groups.Ordered) (ho : other.Ordered)
    (hn : ∀ g, g ∈ groups.numbers ↔ g ∈ other.numbers)
    (hf : ∀ g, groups.fields g = other.fields g) : groups = other := by
  induction groups generalizing other with
  | nil =>
    cases other with
    | nil => rfl
    | cons e other =>
      have := (hn e.1).2 (by simp [numbers])
      simp [numbers] at this
  | cons e groups ih =>
    cases other with
    | nil =>
      have := (hn e.1).1 (by simp [numbers])
      simp [numbers] at this
    | cons e' other =>
      obtain ⟨n, fields⟩ := e
      obtain ⟨n', fields'⟩ := e'
      obtain ⟨hlt, hgrest⟩ := ordered_cons.1 hg
      obtain ⟨hlt', horest⟩ := ordered_cons.1 ho
      have hmem : ∀ g, g = n ∨ g ∈ numbers groups ↔ g = n' ∨ g ∈ numbers other := by
        simpa [numbers] using hn
      obtain ⟨rfl, hnumbers⟩ := numbers_tail hlt hlt' hmem
      have hfield : fields = fields' := by
        have := hf n
        rwa [fields_cons_self, fields_cons_self] at this
      have hnot : n ∉ numbers groups := fun h => Int.lt_irrefl n (hlt n h)
      have hnot' : n ∉ numbers other := fun h => Int.lt_irrefl n (hlt' n h)
      have hrest : groups = other := by
        apply ih hgrest horest hnumbers
        intro g
        by_cases hgn : g = n
        · rw [hgn, fields_of_not_mem hnot, fields_of_not_mem hnot']
        · have := hf g
          rwa [fields_cons_of_ne hgn, fields_cons_of_ne hgn] at this
      rw [hfield, hrest]

/-- Groups are determined as well by the fields of each in order, and by what stands under
each field. -/
theorem ext_constraints (hg : groups.Ordered) (ho : other.Ordered)
    (hn : ∀ g, g ∈ groups.numbers ↔ g ∈ other.numbers)
    (hdistinct : ∀ g, (Entries.names (groups.fields g)).Nodup)
    (hnames : ∀ g, Entries.names (groups.fields g) = Entries.names (other.fields g))
    (hc : ∀ g name, name ∈ Entries.names (groups.fields g) →
      groups.constraints g name = other.constraints g name) : groups = other := by
  refine ext_fields hg ho hn fun g => Entries.ext_get? (hdistinct g) (hnames g) fun name => ?_
  by_cases hmem : name ∈ Entries.names (groups.fields g)
  · have hmem' : name ∈ Entries.names (other.fields g) := hnames g ▸ hmem
    rw [← Registry.lookup_isSome_iff, Option.isSome_iff_exists] at hmem hmem'
    have hc := hc g name (by rwa [← Registry.lookup_isSome_iff, Option.isSome_iff_exists])
    obtain ⟨cs, hcs⟩ := hmem
    obtain ⟨cs', hcs'⟩ := hmem'
    rw [Groups.constraints, Groups.constraints, hcs, hcs'] at hc
    rw [hcs, hcs']
    exact congrArg some hc
  · rw [Entries.get?_eq_none_iff.2 hmem, Entries.get?_eq_none_iff.2 (hnames g ▸ hmem)]

/-! ## The highest number -/

private theorem le_foldl_max (ns : List Int) (m : Int) :
    m ≤ ns.foldl max m ∧ ∀ n ∈ ns, n ≤ ns.foldl max m := by
  induction ns generalizing m with
  | nil => exact ⟨Int.le_refl m, fun n hn => by simp at hn⟩
  | cons n ns ih =>
    obtain ⟨hmax, hns⟩ := ih (max m n)
    rw [List.foldl_cons, List.forall_mem_cons]
    exact ⟨Int.le_trans (Int.le_max_left m n) hmax, Int.le_trans (Int.le_max_right m n) hmax, hns⟩

theorem le_highest (h : g ∈ groups.numbers) : g ≤ groups.highest := (le_foldl_max _ _).2 g h

/-! ## Adding a constraint -/

variable {c : Constraint} {field name : String}

/-- A constraint that is added changes the list of its field and group and no other one. -/
theorem constraints_update_add (h : groups.Ordered) (g : Int) (name : String) :
    (groups.update group (·.add field c)).constraints g name =
      if g = group ∧ name = field then c.addTo (groups.constraints group field)
      else groups.constraints g name := by
  simp only [Groups.constraints, fields_update h]
  by_cases hg : g = group
  · subst hg
    by_cases hn : name = field
    · subst hn
      rw [if_pos rfl, if_pos ⟨rfl, rfl⟩, FieldConstraints.add, Entries.get?_update_self]
      rfl
    · rw [if_pos rfl, if_neg (fun h => hn h.2), FieldConstraints.add,
        Entries.get?_update_of_ne hn]
  · rw [if_neg hg, if_neg (fun h => hg h.1)]

/-- The field of a constraint that is added is the last one of its group, if it is new. -/
theorem names_update_add (h : groups.Ordered) (g : Int) :
    Entries.names ((groups.update group (·.add field c)).fields g) =
      if g = group ∧ field ∉ Entries.names (groups.fields g) then
        Entries.names (groups.fields g) ++ [field]
      else Entries.names (groups.fields g) := by
  rw [fields_update h]
  by_cases hg : g = group
  · subst hg
    rw [if_pos rfl, FieldConstraints.add, Entries.names_update]
    by_cases hf : field ∈ Entries.names (groups.fields g) <;> simp [hf]
  · rw [if_neg hg, if_neg (fun h => hg h.1)]

end Groups

end FieldedSearch
