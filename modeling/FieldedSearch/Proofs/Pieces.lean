-- SUMMARY: Search strings put together from pieces with blanks between them: their groups, their terms, and what they leave over.
import FieldedSearch.Proofs.Leftover
import FieldedSearch.Proofs.Separation
import FieldedSearch.Query.Part

/-!
# Pieces of a search string

A search string is written piece by piece, with a blank between each two: texts of the
root, and groups in parentheses. As long as no piece holds a parenthesis of its own, the
groups are found again as they are, and the root consists of the other pieces. The
terms of pieces that close their brackets are those of the one, then those of the next.
-/

namespace FieldedSearch.Query

variable {s t u v : List Char} {ss : List (List Char)} {a : Char}

/-! ## Joining -/

/-- Texts with a blank between each two. -/
def spaced (ss : List (List Char)) : List Char := [' '].intercalate ss

@[simp] theorem spaced_nil : spaced [] = [] := rfl

@[simp] theorem spaced_singleton (s : List Char) : spaced [s] = s := List.intercalate_singleton

@[simp] theorem spaced_cons_cons (s t : List Char) (ss : List (List Char)) :
    spaced (s :: t :: ss) = s ++ ' ' :: spaced (t :: ss) := by
  simp [spaced]

theorem spaced_cons (s : List Char) (h : ss ≠ []) : spaced (s :: ss) = s ++ ' ' :: spaced ss := by
  cases ss with
  | nil => exact absurd rfl h
  | cons t ss => exact spaced_cons_cons s t ss

theorem spaced_concat (h : ss ≠ []) (s : List Char) :
    spaced (ss ++ [s]) = spaced ss ++ ' ' :: s := by
  induction ss with
  | nil => exact absurd rfl h
  | cons t ss ih =>
    cases ss with
    | nil => rw [List.singleton_append, spaced_cons_cons, spaced_singleton, spaced_singleton]
    | cons t' ss =>
      rw [List.cons_append, spaced_cons t (by simp), ih (List.cons_ne_nil _ _), spaced_cons_cons,
        List.append_assoc, List.cons_append]

/-- A property of characters that the blank has, and all characters of some texts have,
is one of all characters of the joined texts. -/
theorem forall_mem_spaced {p : Char → Prop} (hblank : p ' ') (h : ∀ s ∈ ss, ∀ a ∈ s, p a) :
    ∀ a ∈ spaced ss, p a := by
  induction ss with
  | nil => intro a ha; contradiction
  | cons s ss ih =>
    obtain ⟨hs, hss⟩ := List.forall_mem_cons.1 h
    cases ss with
    | nil => rwa [spaced_singleton]
    | cons t ss =>
      intro a ha
      rw [spaced_cons_cons] at ha
      rcases List.mem_append.1 ha with ha | ha
      · exact hs a ha
      · rcases List.mem_cons.1 ha with rfl | ha
        · exact hblank
        · exact ih hss a ha

/-! ## Groups -/

/-- A text without parentheses. -/
def Plain (s : List Char) : Prop := '(' ∉ s ∧ ')' ∉ s

instance (s : List Char) : Decidable (Plain s) := inferInstanceAs (Decidable (_ ∧ _))

theorem plain_iff : Plain s ↔ ∀ a ∈ s, a ≠ '(' ∧ a ≠ ')' := by
  constructor
  · rintro ⟨ho, hc⟩ a ha
    exact ⟨fun h => ho (h ▸ ha), fun h => hc (h ▸ ha)⟩
  · intro h
    exact ⟨fun hm => (h _ hm).1 rfl, fun hm => (h _ hm).2 rfl⟩

theorem Plain.append (hs : Plain s) (ht : Plain t) : Plain (s ++ t) := by
  rw [plain_iff] at *
  intro a ha
  exact (List.mem_append.1 ha).elim (hs a) (ht a)

theorem Plain.mono (hs : Plain s) (h : ∀ a ∈ t, a ∈ s) : Plain t :=
  ⟨fun hm => hs.1 (h _ hm), fun hm => hs.2 (h _ hm)⟩

theorem plain_spaced (h : ∀ s ∈ ss, Plain s) : Plain (spaced ss) := by
  rw [plain_iff]
  exact forall_mem_spaced ⟨by decide, by decide⟩ fun s hs => plain_iff.1 (h s hs)

private theorem groupBody?_plain (h : Plain s) (t : List Char) :
    groupBody? (s ++ ')' :: t) = some (s, t) := by
  induction s with
  | nil => rfl
  | cons a s ih =>
    obtain ⟨⟨hopen, hclose⟩, hs⟩ := List.forall_mem_cons.1 (plain_iff.1 h)
    rw [List.cons_append, groupBody?, if_neg hclose, if_neg hopen, ih (plain_iff.2 hs)]
    rfl

private theorem plain_of_groupBody? (h : groupBody? s = some (t, u)) : Plain t := by
  induction s generalizing t with
  | nil => simp [groupBody?] at h
  | cons a s ih =>
    simp only [groupBody?] at h
    split at h
    · obtain ⟨rfl, rfl⟩ := Prod.mk.inj (Option.some.inj h)
      decide
    · split at h
      · contradiction
      · next hclose hopen =>
        obtain ⟨⟨t', u'⟩, hbody, heq⟩ := Option.map_eq_some_iff.1 h
        obtain ⟨rfl, rfl⟩ := Prod.mk.inj heq
        have ht := plain_iff.1 (ih hbody)
        exact plain_iff.2 (List.forall_mem_cons.2 ⟨⟨hopen, hclose⟩, ht⟩)

/-- The body of a group is a text without parentheses in front of a closing one. -/
theorem groupBody?_eq_some_iff : groupBody? s = some (t, u) ↔ s = t ++ ')' :: u ∧ Plain t := by
  constructor
  · intro h
    exact ⟨groupBody?_eq_some h, plain_of_groupBody? h⟩
  · rintro ⟨rfl, ht⟩
    exact groupBody?_plain ht u

@[simp] theorem splitGroups_nil : splitGroups [] = ([], []) := by
  rw [splitGroups]

/-- A character that does not open a group stays in the root. -/
theorem splitGroups_cons (h : a = '(' → groupBody? s = none) :
    splitGroups (a :: s) = (a :: (splitGroups s).1, (splitGroups s).2) := by
  rw [splitGroups]
  split
  · next ha =>
    split
    · next h' =>
      rw [h ha] at h'
      contradiction
    · rfl
  · rfl

theorem splitGroups_plain (h : Plain s) (t : List Char) :
    splitGroups (s ++ t) = (s ++ (splitGroups t).1, (splitGroups t).2) := by
  induction s with
  | nil => rfl
  | cons a s ih =>
    obtain ⟨⟨hopen, -⟩, hs⟩ := List.forall_mem_cons.1 (plain_iff.1 h)
    rw [List.cons_append, splitGroups_cons fun ha => absurd ha hopen, ih (plain_iff.2 hs)]
    rfl

theorem splitGroups_group (h : Plain s) (t : List Char) :
    splitGroups ('(' :: s ++ ')' :: t) = ((splitGroups t).1, s :: (splitGroups t).2) := by
  have hbody : groupBody? (s ++ ')' :: t) = some (s, t) := groupBody?_eq_some_iff.2 ⟨rfl, h⟩
  rw [List.cons_append, splitGroups, if_pos rfl]
  split
  · next h' =>
    rw [hbody] at h'
    obtain ⟨rfl, rfl⟩ := Prod.mk.inj (Option.some.inj h')
    rfl
  · next h' =>
    rw [hbody] at h'
    contradiction

/-- Induction over a text in the way in which its groups are found. -/
theorem groups_induction {motive : List Char → Prop} (s : List Char)
    (nil : motive [])
    (cons : ∀ a s, (a = '(' → groupBody? s = none) → motive s → motive (a :: s))
    (group : ∀ t s, Plain t → motive s → motive ('(' :: t ++ ')' :: s)) : motive s := by
  fun_induction splitGroups s with
  | case1 => exact nil
  | case2 s body rest hbody _ _ _ _ ih =>
    obtain ⟨rfl, hplain⟩ := groupBody?_eq_some_iff.1 hbody
    exact group body rest hplain ih
  | case3 s hbody _ _ _ ih => exact cons '(' s (fun _ => hbody) ih
  | case4 a s ha _ _ _ ih => exact cons a s (fun h => absurd h ha) ih

/-- A group has no parentheses of its own. -/
theorem plain_of_mem_splitGroups (h : t ∈ (splitGroups s).2) : Plain t := by
  induction s using groups_induction with
  | nil => rw [splitGroups_nil] at h; contradiction
  | cons a s ha ih => rw [splitGroups_cons ha] at h; exact ih h
  | group body s hbody ih =>
    rw [splitGroups_group hbody] at h
    rcases List.mem_cons.1 h with rfl | h
    · exact hbody
    · exact ih h

private theorem splitGroups_eq_self (h : (splitGroups s).2 = []) : (splitGroups s).1 = s := by
  induction s using groups_induction with
  | nil => rw [splitGroups_nil]
  | cons a s ha ih =>
    rw [splitGroups_cons ha] at h ⊢
    rw [ih h]
  | group body s hbody ih =>
    rw [splitGroups_group hbody] at h
    contradiction

/-- A body that ends only in the second of two texts begins with the whole of the first. -/
private theorem plain_of_groupBody?_append (hs : groupBody? s = none)
    (h : groupBody? (s ++ t) = some (u, v)) : Plain s := by
  obtain ⟨heq, hplain⟩ := groupBody?_eq_some_iff.1 h
  rcases List.append_eq_append_iff.1 heq with ⟨w, rfl, -⟩ | ⟨w, rfl, hw⟩
  · exact hplain.mono fun a ha => List.mem_append_left _ ha
  · cases w with
    | nil => rwa [List.append_nil]
    | cons b w =>
      obtain ⟨rfl, -⟩ := List.cons.inj hw
      rw [groupBody?_eq_some_iff.2 ⟨rfl, hplain⟩] at hs
      contradiction

/-- A text that adds no group to those in front of it stays in the root. -/
theorem splitGroups_append (h : (splitGroups (s ++ t)).2 = (splitGroups s).2) :
    (splitGroups (s ++ t)).1 = (splitGroups s).1 ++ t := by
  induction s using groups_induction with
  | nil =>
    rw [splitGroups_nil] at h ⊢
    exact splitGroups_eq_self h
  | cons a s ha ih =>
    rw [splitGroups_cons ha, List.cons_append] at h ⊢
    by_cases ha' : a = '(' → groupBody? (s ++ t) = none
    · rw [splitGroups_cons ha'] at h ⊢
      rw [ih h]
      rfl
    · -- here a group would begin in front of `t`, and end in it
      obtain ⟨rfl, hsome⟩ := Classical.not_imp.1 ha'
      obtain ⟨⟨body, rest⟩, hbody⟩ := Option.ne_none_iff_exists'.1 hsome
      have hs := splitGroups_plain (plain_of_groupBody?_append (ha rfl) hbody) []
      obtain ⟨heq, hplain⟩ := groupBody?_eq_some_iff.1 hbody
      rw [List.append_nil, splitGroups_nil] at hs
      rw [heq, ← List.cons_append, splitGroups_group hplain, hs] at h
      contradiction
  | group body s hbody ih =>
    have hassoc : '(' :: body ++ ')' :: s ++ t = '(' :: body ++ ')' :: (s ++ t) :=
      List.append_assoc _ _ _
    rw [hassoc, splitGroups_group hbody, splitGroups_group hbody] at h ⊢
    exact ih (List.cons.inj h).2

/-- A piece of a search string. -/
inductive Piece
  | text (s : List Char)
  | group (s : List Char)

namespace Piece

/-- What a piece holds, without parentheses around it. -/
def body : Piece → List Char
  | text s | group s => s

/-- A piece as it is written. -/
def write : Piece → List Char
  | text s => s
  | group s => '(' :: s ++ [')']

/-- What a piece adds to the root. -/
def root : Piece → List Char
  | text s => s
  | group _ => []

/-- The group that a piece is, if it is one. -/
def groups : Piece → List (List Char)
  | text _ => []
  | group s => [s]

end Piece

private theorem splitGroups_piece {p : Piece} (h : Plain p.body) (t : List Char) :
    splitGroups (p.write ++ t) =
      (p.root ++ (splitGroups t).1, p.groups ++ (splitGroups t).2) := by
  cases p with
  | text s => exact splitGroups_plain h t
  | group s =>
    have hsplit : splitGroups ('(' :: s ++ ')' :: t) = _ := splitGroups_group h t
    rw [Piece.write, List.append_assoc]
    exact hsplit

/-- The groups of a search string are those of its pieces, and its root is what the other
pieces make up. -/
theorem splitGroups_spaced {ps : List Piece} (h : ∀ p ∈ ps, Plain p.body) :
    splitGroups (spaced (ps.map Piece.write)) =
      (spaced (ps.map Piece.root), ps.flatMap Piece.groups) := by
  induction ps with
  | nil => simp
  | cons p ps ih =>
    obtain ⟨hp, hps⟩ := List.forall_mem_cons.1 h
    cases ps with
    | nil =>
      have hsplit := splitGroups_piece hp []
      rw [List.append_nil, splitGroups, List.append_nil, List.append_nil] at hsplit
      rw [List.map_singleton, List.map_singleton, spaced_singleton, spaced_singleton,
        List.flatMap_singleton, hsplit]
    | cons q ps =>
      have hblank : Plain [' '] := by decide
      have hrest := splitGroups_plain hblank (spaced ((q :: ps).map Piece.write))
      rw [List.singleton_append] at hrest
      rw [List.map_cons, List.map_cons, spaced_cons_cons, ← List.map_cons, splitGroups_piece hp,
        hrest, ih hps]
      rfl

/-! ## Terms -/

/-- The terms of texts of which all but the last close their brackets are the terms of
each. -/
theorem splitTerms_spaced (h : ∀ s ∈ ss.dropLast, Closes s) :
    splitTerms (spaced ss) = (ss.flatMap fun s => (splitTerms s).1, spaced (ss.map left)) := by
  induction ss with
  | nil => rw [spaced_nil, splitTerms_nil]; rfl
  | cons s ss ih =>
    cases ss with
    | nil => rw [spaced_singleton, List.flatMap_singleton, List.map_singleton, spaced_singleton]
    | cons t ss =>
      rw [List.dropLast_cons_cons, List.forall_mem_cons] at h
      rw [spaced_cons_cons, splitTerms_append_blank (by decide) (.inl h.1), ih h.2]
      simp only [List.map_cons, List.flatMap_cons, spaced_cons_cons]

theorem closes_spaced (h : ∀ s ∈ ss, Closes s) : Closes (spaced ss) := by
  induction ss with
  | nil => exact closes_of_not_mem List.not_mem_nil
  | cons s ss ih =>
    obtain ⟨hs, hss⟩ := List.forall_mem_cons.1 h
    cases ss with
    | nil => rwa [spaced_singleton]
    | cons t ss =>
      have hblank : Closes [' '] := closes_of_not_mem (by decide)
      rw [spaced_cons_cons]
      exact hs.append (hblank.append (ih hss))

/-! ## Trimming -/

/-- A text that neither begins nor ends with a blank, and is not empty. -/
def Solid (s : List Char) : Prop :=
  (∃ a ∈ s.head?, Text.isBlank a = false) ∧ ∃ a ∈ s.getLast?, Text.isBlank a = false

instance (s : List Char) : Decidable (Solid s) :=
  decidable_of_iff (s.head?.any (!Text.isBlank ·) ∧ s.getLast?.any (!Text.isBlank ·))
    (by simp [Solid, Option.any_eq_true])

theorem Solid.ne_nil (h : Solid s) : s ≠ [] := by
  rintro rfl
  obtain ⟨⟨a, ha, -⟩, -⟩ := h
  contradiction

/-- What stands between two solid texts does not matter. -/
theorem Solid.append (hs : Solid s) (t : List Char) (hu : Solid u) : Solid (s ++ t ++ u) := by
  obtain ⟨⟨a, ha, hblank⟩, -⟩ := hs
  obtain ⟨-, b, hb, hblank'⟩ := hu
  refine ⟨⟨a, ?_, hblank⟩, b, ?_, hblank'⟩
  · rw [List.append_assoc, List.head?_append, Option.mem_def.1 ha]
    rfl
  · rw [List.getLast?_append, Option.mem_def.1 hb]
    rfl

theorem solid_spaced (hne : ss ≠ []) (h : ∀ s ∈ ss, Solid s) : Solid (spaced ss) := by
  induction ss with
  | nil => exact absurd rfl hne
  | cons s ss ih =>
    obtain ⟨hs, hss⟩ := List.forall_mem_cons.1 h
    cases ss with
    | nil => rwa [spaced_singleton]
    | cons t ss =>
      have happend := hs.append [' '] (ih (List.cons_ne_nil t ss) hss)
      rwa [spaced_cons_cons, ← List.singleton_append, ← List.append_assoc]

/-- Blanks in front of a solid text are trimmed. -/
theorem trim_blanks_append (ht : ∀ a ∈ t, Text.isBlank a) (hs : Solid s) :
    Text.trim (t ++ s) = s := by
  obtain ⟨⟨a, ha, hblank⟩, b, hb, hblank'⟩ := hs
  obtain ⟨u, rfl⟩ := List.getLast?_eq_some_iff.1 hb
  have hstart : Text.trimStart (t ++ (u ++ [b])) = u ++ [b] := by
    apply dropWhile_append_stop ht
    intro c hc
    rw [Option.mem_def.1 ha] at hc
    rwa [← Option.some.inj hc]
  rw [Text.trim, hstart, Text.trimEnd, List.reverse_concat,
    List.dropWhile_cons_of_neg (by simp [hblank']), List.reverse_cons, List.reverse_reverse]

theorem trim_solid (hs : Solid s) : Text.trim s = s := by
  have htrim := trim_blanks_append (t := []) (fun _ ha => nomatch ha) hs
  rwa [List.nil_append] at htrim

theorem trim_blanks (ht : ∀ a ∈ t, Text.isBlank a) : Text.trim t = [] := by
  have hstart : Text.trimStart t = [] := List.dropWhile_eq_nil_iff.2 ht
  rw [Text.trim, hstart]
  rfl

theorem mem_of_mem_trim (h : a ∈ Text.trim s) : a ∈ s := by
  have hstart : a ∈ Text.trimStart s :=
    List.mem_reverse.1 ((List.dropWhile_sublist _).mem (List.mem_reverse.1 h))
  exact (List.dropWhile_sublist _).mem hstart

private theorem exists_mem_head?_dropWhile {p : Char → Bool} (hne : s.dropWhile p ≠ []) :
    ∃ a ∈ (s.dropWhile p).head?, p a = false := by
  cases hs : s.dropWhile p with
  | nil => exact absurd hs hne
  | cons a t =>
    have hstop := stopsAt_dropWhile p s
    rw [hs, stopsAt_cons] at hstop
    exact ⟨a, rfl, hstop⟩

/-- What trimming leaves is solid, if it leaves anything. -/
theorem solid_trim (hne : Text.trim s ≠ []) : Solid (Text.trim s) := by
  have hend : (Text.trimStart s).reverse.dropWhile Text.isBlank ≠ [] := by
    intro h
    rw [Text.trim, Text.trimEnd, h] at hne
    exact hne rfl
  have hstart : Text.trimStart s ≠ [] := by
    intro h
    rw [h] at hend
    exact hend rfl
  constructor
  · obtain ⟨a, ha, hblank⟩ := exists_mem_head?_dropWhile hstart
    refine ⟨a, ?_, hblank⟩
    change a ∈ (Text.trimStart s).head? at ha
    -- the text without its trailing blanks begins as it did before
    obtain ⟨t, -, ht⟩ := exists_trimEnd (Text.trimStart s)
    obtain ⟨b, u, hu⟩ := List.exists_cons_of_ne_nil hne
    rw [← ht, ← Text.trim, hu] at ha
    rw [hu]
    exact ha
  · obtain ⟨b, hb, hblank⟩ := exists_mem_head?_dropWhile hend
    refine ⟨b, ?_, hblank⟩
    rw [Text.trim, Text.trimEnd, List.getLast?_reverse]
    exact hb

/-- A solid text behind a blank is trimmed apart from what stands in front of it, and some
blanks stay between the two, unless nothing is left of the first. -/
theorem exists_trim_append_blank (s : List Char) (ht : Solid t) :
    ∃ u, (∀ a ∈ u, Text.isBlank a) ∧ (u = [] → Text.trim s = []) ∧
      Text.trim (s ++ ' ' :: t) = Text.trim s ++ (u ++ t) := by
  obtain ⟨v, hv, hend⟩ := exists_trimEnd (Text.trimStart s)
  have hstart : ∀ a ∈ s.takeWhile Text.isBlank, Text.isBlank a :=
    fun a ha => List.mem_takeWhile_imp ha
  have hs : s.takeWhile Text.isBlank ++ (Text.trim s ++ v) = s := by
    rw [Text.trim, hend, Text.trimStart, List.takeWhile_append_dropWhile]
  have hblanks : ∀ a ∈ v ++ [' '], Text.isBlank a :=
    List.forall_mem_append.2 ⟨hv, List.forall_mem_singleton.2 (by decide)⟩
  by_cases hne : Text.trim s = []
  · refine ⟨[], fun _ ha => absurd ha List.not_mem_nil, fun _ => hne, ?_⟩
    rw [hne, List.nil_append] at hs
    have hall : ∀ a ∈ s ++ [' '], Text.isBlank a := by
      rw [← hs, List.append_assoc]
      exact List.forall_mem_append.2 ⟨hstart, hblanks⟩
    have htrim := trim_blanks_append hall ht
    rw [List.append_assoc, List.singleton_append] at htrim
    rw [htrim, hne, List.nil_append, List.nil_append]
  · refine ⟨v ++ [' '], hblanks, fun hnil => absurd hnil (by simp), ?_⟩
    have hsolid : Solid (Text.trim s ++ (v ++ [' ']) ++ t) := (solid_trim hne).append _ ht
    have htrim := trim_blanks_append hstart hsolid
    calc Text.trim (s ++ ' ' :: t)
      _ = Text.trim (s.takeWhile Text.isBlank ++ (Text.trim s ++ (v ++ [' ']) ++ t)) := by
        conv => lhs; rw [← hs]
        simp only [List.append_assoc, List.singleton_append]
      _ = Text.trim s ++ (v ++ [' '] ++ t) := htrim.trans (List.append_assoc _ _ _)

/-! ## What pieces leave over -/

private theorem exists_spaced_concat (h : ∀ s ∈ ss, ∀ a ∈ s, Text.isBlank a) (t : List Char) :
    ∃ u, (∀ a ∈ u, Text.isBlank a) ∧ spaced (ss ++ [t]) = u ++ t := by
  by_cases hne : ss = []
  · rw [hne, List.nil_append, spaced_singleton]
    exact ⟨[], fun _ ha => absurd ha List.not_mem_nil, rfl⟩
  · have hblank : ∀ a ∈ [' '], Text.isBlank a := List.forall_mem_singleton.2 (by decide)
    have hspaced : ∀ a ∈ spaced ss, Text.isBlank a :=
      forall_mem_spaced (p := fun a => Text.isBlank a) (by decide) h
    refine ⟨spaced ss ++ [' '], List.forall_mem_append.2 ⟨hspaced, hblank⟩, ?_⟩
    rw [spaced_concat hne, List.append_assoc, List.singleton_append]

/-- Where texts leave over only blanks, a last text without terms is all that is left of
them after trimming. -/
theorem splitTerms_spaced_append {k : Option (List Char)}
    (h : ∀ s ∈ ss, Closes s ∧ ∀ a ∈ left s, Text.isBlank a)
    (hk : ∀ t ∈ k, Solid t ∧ Termless t) :
    (splitTerms (spaced (ss ++ k.toList))).1 = ss.flatMap (fun s => (splitTerms s).1) ∧
      Text.trim (left (spaced (ss ++ k.toList))) = k.getD [] := by
  have hcloses : ∀ s ∈ (ss ++ k.toList).dropLast, Closes s := by
    intro s hs
    cases k with
    | none =>
      rw [Option.toList_none, List.append_nil] at hs
      exact (h s ((List.dropLast_sublist ss).mem hs)).1
    | some t =>
      rw [Option.toList_some, List.dropLast_concat] at hs
      exact (h s hs).1
  have hblanks : ∀ s ∈ ss.map left, ∀ a ∈ s, Text.isBlank a := by
    intro s hs
    obtain ⟨t, ht, rfl⟩ := List.mem_map.1 hs
    exact (h t ht).2
  unfold left
  rw [splitTerms_spaced hcloses, List.flatMap_append, List.map_append]
  cases k with
  | none =>
    have hspaced : ∀ a ∈ spaced (ss.map left), Text.isBlank a :=
      forall_mem_spaced (p := fun a => Text.isBlank a) (by decide) hblanks
    rw [Option.toList_none, List.map_nil, List.append_nil]
    exact ⟨List.append_nil _, trim_blanks hspaced⟩
  | some t =>
    obtain ⟨hsolid, htermless⟩ := hk t rfl
    obtain ⟨u, hu, heq⟩ := exists_spaced_concat hblanks t
    rw [Option.toList_some, List.map_singleton, left, htermless.splitTerms_eq, heq,
      List.flatMap_singleton, htermless.splitTerms_eq]
    exact ⟨List.append_nil _, trim_blanks_append hu hsolid⟩

end FieldedSearch.Query
