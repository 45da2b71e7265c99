-- SUMMARY: Cutting the parenthesised groups out of a search string.

/-!
# Groups

A group is text without parentheses between an opening and a closing one, so groups
do not nest: of nested pairs only the innermost are groups, and every parenthesis
that bounds none stays text. What is not in a group is the root text.
-/

namespace FieldedSearch.Query

/-- The text up to the next parenthesis, if that is a closing one, and what follows
it. -/
def groupBody? : List Char → Option (List Char × List Char)
  | [] => none
  | c :: s =>
    if c = ')' then some ([], s)
    else if c = '(' then none
    else (groupBody? s).map fun (body, rest) => (c :: body, rest)

/-- The text in front of a group is the group, its parenthesis, and the rest. -/
theorem groupBody?_eq_some {s body rest : List Char} (h : groupBody? s = some (body, rest)) :
    s = body ++ ')' :: rest := by
  induction s generalizing body with
  | nil => simp [groupBody?] at h
  | cons c s ih =>
    simp only [groupBody?] at h
    split at h
    · simp_all
    · split at h
      · simp at h
      · obtain ⟨⟨b, r⟩, hb, heq⟩ := Option.map_eq_some_iff.1 h
        simp only [Prod.mk.injEq] at heq
        obtain ⟨rfl, rfl⟩ := heq
        rw [ih hb, List.cons_append]

theorem length_of_groupBody? {s body rest : List Char} (h : groupBody? s = some (body, rest)) :
    rest.length < s.length := by
  rw [groupBody?_eq_some h, List.length_append, List.length_cons]; omega

/-- The root text and the groups of a search string, the groups in order. -/
def splitGroups : List Char → List Char × List (List Char)
  | [] => ([], [])
  | c :: s =>
    if c = '(' then
      match h : groupBody? s with
      | some (body, rest) =>
        have := length_of_groupBody? h
        let (root, groups) := splitGroups rest
        (root, body :: groups)
      | none =>
        let (root, groups) := splitGroups s
        (c :: root, groups)
    else
      let (root, groups) := splitGroups s
      (c :: root, groups)
termination_by s => s.length
decreasing_by
  all_goals simp only [List.length_cons]; omega

end FieldedSearch.Query
