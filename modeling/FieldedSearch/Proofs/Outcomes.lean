-- SUMMARY: What is known of steps that may fail, one after another or along a list.
import Mathlib.Data.List.Basic

/-!
# Steps that may fail

Where several steps succeed, each of them does; where they fail, it is with the failure of
one of them. Along a list, two functions that agree on its members come to the same.
-/

namespace FieldedSearch

variable {ε α β γ : Type}

/-! ## Two steps -/

theorem ok_bind (a : α) (g : α → Except ε β) : ((.ok a : Except ε α) >>= g) = g a := rfl

theorem eq_ok_of_toOption {x : Except ε α} {a : α} (h : x.toOption = some a) : x = .ok a := by
  cases x with
  | error e => cases h
  | ok b => exact congrArg Except.ok (Option.some.inj h)

theorem exists_of_bind_eq_ok {x : Except ε α} {g : α → Except ε β} {b : β}
    (h : (x >>= g) = .ok b) : ∃ a, x = .ok a ∧ g a = .ok b := by
  cases x with
  | error e => contradiction
  | ok a => exact ⟨a, rfl, h⟩

theorem bind_eq_error {x : Except ε α} {g : α → Except ε β} {e : ε}
    (h : (x >>= g) = .error e) : x = .error e ∨ ∃ a, x = .ok a ∧ g a = .error e := by
  cases x with
  | error e' => exact .inl (congrArg Except.error (Except.error.inj h))
  | ok a => exact .inr ⟨a, rfl, h⟩

theorem exists_bind_eq_ok_iff {x : Except ε α} {g : α → Except ε β} :
    (∃ b, (x >>= g) = .ok b) ↔ ∃ a, x = .ok a ∧ ∃ b, g a = .ok b := by
  constructor
  · rintro ⟨b, h⟩
    obtain ⟨a, ha, hb⟩ := exists_of_bind_eq_ok h
    exact ⟨a, ha, b, hb⟩
  · rintro ⟨a, rfl, b, hb⟩
    exact ⟨b, hb⟩

theorem bind_eq_error_iff {x : Except ε α} {g : α → Except ε β} {e : ε} :
    (x >>= g) = .error e ↔ x = .error e ∨ ∃ a, x = .ok a ∧ g a = .error e := by
  refine ⟨bind_eq_error, ?_⟩
  rintro (rfl | ⟨a, rfl, h⟩)
  · rfl
  · exact h

theorem exists_of_mapM_cons_eq_ok {g : α → Except ε β} {x : α} {xs : List α} {ys : List β}
    (h : (x :: xs).mapM g = .ok ys) :
    ∃ y zs, g x = .ok y ∧ xs.mapM g = .ok zs ∧ ys = y :: zs := by
  rw [List.mapM_cons] at h
  obtain ⟨y, hy, h⟩ := exists_of_bind_eq_ok h
  obtain ⟨zs, hzs, h⟩ := exists_of_bind_eq_ok h
  exact ⟨y, zs, hy, hzs, (Except.ok.inj h).symm⟩

/-- Where one function succeeds all along a list, so does a second one that follows it. -/
theorem exists_mapM_eq_ok {g : α → Except ε β} {g' : α → Except ε γ} {R : β → γ → Prop}
    {xs : List α} {ys : List β} (hg : ∀ x ∈ xs, ∀ y, g x = .ok y → ∃ z, g' x = .ok z ∧ R y z)
    (h : xs.mapM g = .ok ys) : ∃ zs, xs.mapM g' = .ok zs ∧ List.Forall₂ R ys zs := by
  induction xs generalizing ys with
  | nil =>
    obtain rfl := Except.ok.inj h
    exact ⟨[], rfl, .nil⟩
  | cons x xs ih =>
    obtain ⟨y, ys, hy, hys, rfl⟩ := exists_of_mapM_cons_eq_ok h
    obtain ⟨hx, hxs⟩ := List.forall_mem_cons.1 hg
    obtain ⟨z, hz, hyz⟩ := hx y hy
    obtain ⟨zs, hzs, hrest⟩ := ih hxs hys
    refine ⟨z :: zs, ?_, .cons hyz hrest⟩
    rw [List.mapM_cons, hz, hzs]
    rfl

/-- A function fails along a list with its failure for one of the members. -/
theorem exists_of_mapM_eq_error {g : α → Except ε β} {xs : List α} {e : ε}
    (h : xs.mapM g = .error e) : ∃ x ∈ xs, g x = .error e := by
  induction xs with
  | nil => contradiction
  | cons x xs ih =>
    rw [List.mapM_cons] at h
    rcases bind_eq_error h with hx | ⟨y, -, h⟩
    · exact ⟨x, List.mem_cons_self, hx⟩
    · rcases bind_eq_error h with hxs | ⟨ys, -, h⟩
      · obtain ⟨x', hmem, hx'⟩ := ih hxs
        exact ⟨x', List.mem_cons_of_mem x hmem, hx'⟩
      · contradiction

/-- A function fails along a list with its failure for the first member for which it fails. -/
theorem mapM_eq_error_iff {g : α → Except ε β} {xs : List α} {e : ε} :
    xs.mapM g = .error e ↔ ∃ before x after, xs = before ++ x :: after ∧
      (∀ b ∈ before, ∃ y, g b = .ok y) ∧ g x = .error e := by
  induction xs with
  | nil =>
    refine ⟨fun h => (nomatch h), ?_⟩
    rintro ⟨before, x, after, h, -⟩
    exact absurd h.symm (List.append_ne_nil_of_right_ne_nil before (List.cons_ne_nil x after))
  | cons a xs ih =>
    rw [List.mapM_cons, bind_eq_error_iff]
    constructor
    · rintro (ha | ⟨y, ha, h⟩)
      · exact ⟨[], a, xs, rfl, List.forall_mem_nil _, ha⟩
      · obtain ⟨before, x, after, rfl, hbefore, hx⟩ :=
          ih.1 ((bind_eq_error_iff.1 h).resolve_right fun ⟨_, _, h⟩ => nomatch h)
        exact ⟨a :: before, x, after, rfl, List.forall_mem_cons.2 ⟨⟨y, ha⟩, hbefore⟩, hx⟩
    · rintro ⟨before, x, after, h, hbefore, hx⟩
      cases before with
      | nil =>
        obtain ⟨rfl, -⟩ := List.cons.inj h
        exact .inl hx
      | cons b before =>
        obtain ⟨rfl, rfl⟩ := List.cons.inj h
        obtain ⟨⟨y, hy⟩, hbefore⟩ := List.forall_mem_cons.1 hbefore
        exact .inr ⟨y, hy, bind_eq_error_iff.2 (.inl (ih.2 ⟨before, x, after, rfl, hbefore, hx⟩))⟩

/-- A function fails along a list only as it should exactly if every member for which it fails
otherwise stands behind one for which it fails as it should. -/
theorem forall_error_mapM_iff {g : α → Except ε β} {P : ε → Prop} {xs : List α} :
    (∀ e, xs.mapM g = .error e → P e) ↔ ∀ before x after, xs = before ++ x :: after →
      (∃ e, g x = .error e ∧ ¬ P e) → ∃ b ∈ before, ∃ e, g b = .error e ∧ P e := by
  constructor
  · rintro h before x after rfl ⟨e, hx, hnot⟩
    -- if nothing in front of the member fails, its own failure is that of the list
    cases hbefore : before.mapM g with
    | ok ys =>
      refine absurd (h e ?_) hnot
      rw [List.mapM_append, List.mapM_cons, hbefore, hx]
      rfl
    | error e' =>
      obtain ⟨b, hb, hfails⟩ := exists_of_mapM_eq_error hbefore
      refine ⟨b, hb, e', hfails, h e' ?_⟩
      rw [List.mapM_append, hbefore]
      rfl
  · intro h e he
    obtain ⟨before, x, after, hsplit, hbefore, hx⟩ := mapM_eq_error_iff.1 he
    by_contra hnot
    obtain ⟨b, hb, e', hfails, -⟩ := h before x after hsplit ⟨e, hx, hnot⟩
    obtain ⟨y, hy⟩ := hbefore b hb
    cases hy.symm.trans hfails

/-- Where a list is cut into pieces, the first failure along the pieces is that along the
list. -/
theorem mapM_flatMap_eq_error_iff {l : γ → List α} {g : α → Except ε β}
    {h : γ → Except ε (List β)} (hh : ∀ x e, h x = .error e ↔ (l x).mapM g = .error e)
    {xs : List γ} {e : ε} : xs.mapM h = .error e ↔ (xs.flatMap l).mapM g = .error e := by
  induction xs with
  | nil => exact ⟨fun h => (nomatch h), fun h => (nomatch h)⟩
  | cons x xs ih =>
    rw [List.flatMap_cons, List.mapM_append, List.mapM_cons, bind_eq_error_iff, bind_eq_error_iff,
      hh]
    refine or_congr_right ⟨?_, ?_⟩
    · rintro ⟨ys, hys, hrest⟩
      have hfails := (bind_eq_error_iff.1 hrest).resolve_right fun ⟨_, _, h⟩ => nomatch h
      cases hl : (l x).mapM g with
      | error e' => exact absurd ((hh x e').2 hl) (by rw [hys]; exact nofun)
      | ok zs => exact ⟨zs, rfl, bind_eq_error_iff.2 (.inl (ih.1 hfails))⟩
    · rintro ⟨zs, hzs, hrest⟩
      have hfails := (bind_eq_error_iff.1 hrest).resolve_right fun ⟨_, _, h⟩ => nomatch h
      cases hx : h x with
      | error e' => exact absurd ((hh x e').1 hx) (by rw [hzs]; exact nofun)
      | ok ys => exact ⟨ys, rfl, bind_eq_error_iff.2 (.inl (ih.2 hfails))⟩

theorem forM_eq_ok_iff {g : α → Except ε Unit} {xs : List α} :
    xs.forM g = .ok () ↔ ∀ x ∈ xs, g x = .ok () := by
  induction xs with
  | nil => exact ⟨fun _ _ hx => absurd hx List.not_mem_nil, fun _ => rfl⟩
  | cons x xs ih =>
    change (g x >>= fun _ => xs.forM g) = .ok () ↔ _
    rw [List.forall_mem_cons, ← ih]
    constructor
    · intro h
      obtain ⟨_, hx, hxs⟩ := exists_of_bind_eq_ok h
      exact ⟨hx, hxs⟩
    · rintro ⟨hx, hxs⟩
      rw [hx, ok_bind, hxs]

/-- A function succeeds along a list exactly if it succeeds for every member. -/
theorem exists_mapM_eq_ok_iff {g : α → Except ε β} {xs : List α} :
    (∃ ys, xs.mapM g = .ok ys) ↔ ∀ x ∈ xs, ∃ y, g x = .ok y := by
  induction xs with
  | nil => exact ⟨fun _ _ hx => absurd hx List.not_mem_nil, fun _ => ⟨[], rfl⟩⟩
  | cons x xs ih =>
    rw [List.mapM_cons, List.forall_mem_cons, ← ih, exists_bind_eq_ok_iff]
    constructor
    · rintro ⟨y, hy, h⟩
      obtain ⟨ys, hys, -⟩ := exists_bind_eq_ok_iff.1 h
      exact ⟨⟨y, hy⟩, ys, hys⟩
    · rintro ⟨⟨y, hy⟩, ys, hys⟩
      exact ⟨y, hy, exists_bind_eq_ok_iff.2 ⟨ys, hys, y :: ys, rfl⟩⟩

/-- Members for which nothing comes out may be left out. -/
theorem flatten_mapM_filter {g : α → Except ε (List β)} {p : α → Bool} {xs : List α}
    (h : ∀ x ∈ xs, p x = false → g x = .ok []) :
    ((xs.filter p).mapM g).map List.flatten = (xs.mapM g).map List.flatten := by
  induction xs with
  | nil => rfl
  | cons x xs ih =>
    obtain ⟨hx, hxs⟩ := List.forall_mem_cons.1 h
    have hrest := ih hxs
    have hcons (y : List β) (m : Except ε (List (List β))) :
        (m >>= fun ys => pure (y :: ys)).map List.flatten = (m.map List.flatten).map (y ++ ·) := by
      cases m <;> rfl
    cases hp : p x with
    | true =>
      rw [List.filter_cons_of_pos hp, List.mapM_cons, List.mapM_cons]
      cases g x with
      | error e => rfl
      | ok y => rw [ok_bind, ok_bind, hcons, hcons, hrest]
    | false =>
      rw [List.filter_cons_of_neg (by simp [hp]), List.mapM_cons, hx hp, ok_bind, hrest]
      cases xs.mapM g <;> rfl

theorem mapM_congr {g g' : α → Except ε β} {xs : List α} (h : ∀ x ∈ xs, g x = g' x) :
    xs.mapM g = xs.mapM g' := by
  induction xs with
  | nil => rfl
  | cons x xs ih =>
    obtain ⟨hx, hxs⟩ := List.forall_mem_cons.1 h
    rw [List.mapM_cons, List.mapM_cons, hx, ih hxs]

end FieldedSearch
