-- SUMMARY: The groups of a search string are its innermost pairs of parentheses, and the root is all the rest.
import FieldedSearch.Proofs.Decomposition
import FieldedSearch.Proofs.Pieces

/-!
# Cutting groups out

A search string is read one lexeme after another: a group wherever one begins, else a run of
other characters, else a single parenthesis. Some lexeme always matches, so the reader never
stops before the end (`GroupLexer.read_eq`). What it finds is the only decomposition of the
search string into pairs of parentheses without parentheses inside and texts without such
pairs (`existsUnique_groups`).
-/

namespace FieldedSearch.Query

variable {s t u : List Char} {a : Char}

/-! ## A lexer for groups -/

namespace GroupLexer

/-- Whether a character is a parenthesis. -/
def isParenthesis (a : Char) : Bool := a == '(' || a == ')'

/-- A group at the head of a text, and what follows it. -/
def group? : List Char → Option (Piece × List Char)
  | [] => none
  | a :: s => if a = '(' then (groupBody? s).map fun (body, rest) => (.group body, rest) else none

/-- A whole run of characters that are no parentheses, or a single parenthesis, and what
follows it. -/
def text? : List Char → Option (Piece × List Char)
  | [] => none
  | a :: s =>
    if isParenthesis a then some (.text [a], s)
    else some (.text (a :: s.takeWhile (!isParenthesis ·)), s.dropWhile (!isParenthesis ·))

/-- The lexeme at the head of a text, and what follows it. A group is looked for first. -/
def next? (s : List Char) : Option (Piece × List Char) := (group? s).or (text? s)

theorem length_of_next? {p : Piece} (h : next? s = some (p, t)) : t.length < s.length := by
  cases s with
  | nil => contradiction
  | cons a s =>
    rw [List.length_cons, Nat.lt_succ_iff]
    rcases Option.or_eq_some_iff.1 h with h | ⟨-, h⟩
    · simp only [group?] at h
      split at h
      · obtain ⟨⟨body, rest⟩, hbody, heq⟩ := Option.map_eq_some_iff.1 h
        obtain ⟨-, rfl⟩ := Prod.mk.inj heq
        exact Nat.le_of_lt (length_of_groupBody? hbody)
      · contradiction
    · simp only [text?] at h
      split at h
      · obtain ⟨-, rfl⟩ := Prod.mk.inj (Option.some.inj h)
        exact Nat.le_refl _
      · obtain ⟨-, rfl⟩ := Prod.mk.inj (Option.some.inj h)
        exact (List.dropWhile_sublist _).length_le

/-- The lexemes of a text, if one is found wherever the text has not ended. -/
def pieces? (s : List Char) : Option (List Piece) :=
  if s = [] then some []
  else
    match h : next? s with
    | none => none
    | some (p, rest) =>
      have := length_of_next? h
      (pieces? rest).map (p :: ·)
termination_by s.length

/-- The root and the groups of a text, read lexeme by lexeme. -/
def read (s : List Char) : Option (List Char × List (List Char)) :=
  (pieces? s).map fun ps => (ps.flatMap Piece.root, ps.flatMap Piece.groups)

private theorem read_next {p : Piece} (h : next? s = some (p, t)) :
    read s = (read t).map fun (root, groups) => (p.root ++ root, p.groups ++ groups) := by
  have hne : s ≠ [] := by
    rintro rfl
    contradiction
  have hpieces : pieces? s = (pieces? t).map (p :: ·) := by
    rw [pieces?, if_neg hne]
    split
    · next h' =>
      rw [h] at h'
      contradiction
    · next h' =>
      rw [h] at h'
      obtain ⟨rfl, rfl⟩ := Prod.mk.inj (Option.some.inj h')
      rfl
  rw [read, hpieces]
  cases hr : pieces? t <;> simp [read, hr]

private theorem group?_eq_none (h : group? (a :: s) = none) :
    a = '(' → groupBody? s = none := by
  intro ha
  simp only [group?] at h
  rwa [if_pos ha, Option.map_eq_none_iff] at h

private theorem read_group {p : Piece} (h : group? s = some (p, t))
    (ih : ∀ t, t.length < s.length → read t = some (splitGroups t)) :
    read s = some (splitGroups s) := by
  have hnext : next? s = some (p, t) := by rw [next?, h, Option.some_or]
  rw [read_next hnext, ih t (length_of_next? hnext)]
  cases s with
  | nil => contradiction
  | cons a s =>
    simp only [group?] at h
    split at h
    · next ha =>
      obtain ⟨⟨body, rest⟩, hbody, heq⟩ := Option.map_eq_some_iff.1 h
      obtain ⟨rfl, rfl⟩ := Prod.mk.inj heq
      obtain ⟨rfl, hplain⟩ := groupBody?_eq_some_iff.1 hbody
      rw [ha, ← List.cons_append, splitGroups_group hplain]
      rfl
    · contradiction

private theorem read_text (hg : group? (a :: s) = none)
    (ih : ∀ t, t.length < (a :: s).length → read t = some (splitGroups t)) :
    read (a :: s) = some (splitGroups (a :: s)) := by
  have hnext : next? (a :: s) = text? (a :: s) := by rw [next?, hg, Option.none_or]
  simp only [text?] at hnext
  split at hnext
  · rw [read_next hnext, ih s (length_of_next? hnext), splitGroups_cons (group?_eq_none hg)]
    rfl
  · next ha =>
    have hsplit : a :: s =
        (a :: s.takeWhile (!isParenthesis ·)) ++ s.dropWhile (!isParenthesis ·) := by
      rw [List.cons_append, List.takeWhile_append_dropWhile]
    have hplain : Plain (a :: s.takeWhile (!isParenthesis ·)) := by
      have hrun : ∀ b ∈ a :: s.takeWhile (!isParenthesis ·), isParenthesis b = false := by
        refine List.forall_mem_cons.2 ⟨by simpa using ha, fun b hb => ?_⟩
        simpa using List.mem_takeWhile_imp hb
      exact plain_iff.2 fun b hb => by simpa [isParenthesis] using hrun b hb
    rw [read_next hnext, ih _ (length_of_next? hnext)]
    conv => rhs; rw [hsplit, splitGroups_plain hplain]
    rfl

/-- Lexeme by lexeme, a text is read without fail, and as `splitGroups` reads it. -/
theorem read_eq (s : List Char) : read s = some (splitGroups s) := by
  -- a lexeme takes a whole run where `splitGroups` takes one character, so by the length
  induction hn : s.length using Nat.strongRecOn generalizing s with
  | ind n ih =>
    have ih : ∀ t : List Char, t.length < s.length → read t = some (splitGroups t) :=
      fun t ht => ih t.length (by omega) t rfl
    cases s with
    | nil =>
      rw [read, pieces?, splitGroups_nil]
      rfl
    | cons a s =>
      cases hg : group? (a :: s) with
      | some r => exact read_group hg ih
      | none => exact read_text hg ih

end GroupLexer

/-! ## The only decomposition -/

/-- A text in which no group stands. -/
def Groupless (s : List Char) : Prop := ∀ t g u, s = t ++ '(' :: (g ++ ')' :: u) → ¬ Plain g

theorem groupless_nil : Groupless [] := by
  intro t g u h
  simp at h

/-- Where a character opens no group, none stands that begins with it. -/
private theorem groupless_cons (h : Groupless s) (ha : a = '(' → groupBody? (s ++ u) = none) :
    Groupless (a :: s) := by
  intro t g v heq hg
  cases t with
  | nil =>
    obtain ⟨rfl, rfl⟩ := List.cons.inj heq
    have hbody : groupBody? ((g ++ ')' :: v) ++ u) = some (g, v ++ u) :=
      groupBody?_eq_some_iff.2 ⟨List.append_assoc _ _ _, hg⟩
    rw [ha rfl] at hbody
    contradiction
  | cons b t => exact h t g v (List.cons.inj heq).2 hg

/-- The items are groups, in parentheses and without parentheses inside; in the texts between
them stands no further group. -/
def groupGrammar : Grammar (List Char) where
  write g := '(' :: (g ++ [')'])
  Item _ g _ := Plain g
  Loose s _ := Groupless s

theorem write_groupGrammar_append (g s : List Char) :
    groupGrammar.write g ++ s = '(' :: (g ++ ')' :: s) := by
  simp [groupGrammar]

private theorem head?_of_resumes (h : groupGrammar.Resumes u t) (hne : t ≠ []) :
    t.head? = some '(' := by
  cases h with
  | stop => contradiction
  | item g s hg => rfl

/-- A text without groups does not reach into a group: it would end in front of one of its
characters, none of which is an opening parenthesis. -/
private theorem length_le_of_groupless {g t' u' : List Char} (hg : Plain g) (hloose : Groupless u')
    (hresumes : groupGrammar.Resumes u' t') (htext : u ++ '(' :: (g ++ ')' :: s) = u' ++ t') :
    u'.length ≤ u.length := by
  rcases List.append_eq_append_iff.1 htext with ⟨x, rfl, hx⟩ | ⟨x, rfl, -⟩
  · cases x with
    | nil => rw [List.append_nil]
    | cons b x =>
      obtain ⟨rfl, hrest⟩ := List.cons.inj hx
      rcases List.append_eq_append_iff.1 hrest with ⟨y, rfl, hy⟩ | ⟨y, rfl, rfl⟩
      · cases y with
        | nil =>
          obtain rfl : ')' :: s = t' := hy
          have hhead := head?_of_resumes hresumes (List.cons_ne_nil _ _)
          simp at hhead
        | cons c y =>
          obtain rfl := (List.cons.inj hy).1
          exact absurd hg (hloose u g y rfl)
      · have hhead := head?_of_resumes hresumes (by simp)
        cases y with
        | nil => simp at hhead
        | cons c y =>
          obtain rfl : c = '(' := Option.some.inj hhead
          exact absurd (by simp) hg.1
  · rw [List.length_append]
    exact Nat.le_add_right _ _

theorem unambiguous_groupGrammar : groupGrammar.Unambiguous where
  write_ne_nil _ := List.cons_ne_nil _ _
  length_le {u g s u' t} hg hloose hresumes htext := by
    rw [write_groupGrammar_append] at htext
    exact length_le_of_groupless hg hloose hresumes htext
  item {u g s g' s'} hg hg' h := by
    rw [write_groupGrammar_append, write_groupGrammar_append] at h
    have hbody : groupBody? (g ++ ')' :: s) = some (g, s) := groupBody?_eq_some_iff.2 ⟨rfl, hg⟩
    rw [groupBody?_eq_some_iff.2 ⟨(List.cons.inj h).2, hg'⟩] at hbody
    obtain ⟨rfl, rfl⟩ := Prod.mk.inj (Option.some.inj hbody)
    exact ⟨rfl, rfl⟩

/-- What `splitGroups` finds is a decomposition into groups and texts without groups. -/
theorem exists_parses_groupGrammar (s : List Char) :
    ∃ d, groupGrammar.Parses d s ∧ splitGroups s = (d.between, d.items) := by
  induction s using groups_induction with
  | nil => exact ⟨.last [], ⟨groupless_nil, rfl⟩, splitGroups_nil⟩
  | cons a s ha ih =>
    obtain ⟨d, hd, hsplit⟩ := ih
    refine ⟨d.prepend [a], hd.prepend (w := [a]) ?_ fun _ _ _ _ hg => hg, ?_⟩
    · rintro u t rfl hu
      exact groupless_cons hu ha
    · rw [splitGroups_cons ha, hsplit, Decomposition.between_prepend, Decomposition.items_prepend]
      rfl
  | group g s hg ih =>
    obtain ⟨d, hd, hsplit⟩ := ih
    refine ⟨.next [] g d, ?_, ?_⟩
    · have hnext : groupGrammar.Parses (.next [] g d) (groupGrammar.write g ++ s) :=
        hd.next groupless_nil hg
      rwa [write_groupGrammar_append] at hnext
    · rw [splitGroups_group hg, hsplit]
      rfl

/-- A search string is in one and only one way made up of groups in parentheses, without
parentheses inside, and of texts in which no further group stands. Reading it never fails,
and finds these groups, and these texts put together for the root. -/
theorem existsUnique_groups (s : List Char) :
    ∃ d, groupGrammar.Parses d s ∧ (∀ d', groupGrammar.Parses d' s → d' = d) ∧
      splitGroups s = (d.between, d.items) ∧
      GroupLexer.read s = some (d.between, d.items) := by
  obtain ⟨d, hd, hsplit⟩ := exists_parses_groupGrammar s
  refine ⟨d, hd, fun d' hd' => unambiguous_groupGrammar.unique hd hd', hsplit, ?_⟩
  rw [GroupLexer.read_eq, hsplit]

end FieldedSearch.Query
