-- SUMMARY: Keywords that are left over of a search string, written behind a filter and read again: they add no terms.
import FieldedSearch.Proofs.RoundTrip

/-!
# Keywords that stay keywords

What the terms of a text leave over has no terms, and neither has what trimming makes of it.
A filter is written with its keywords last, behind a blank. So keywords that were left over
add no term to the search string, wherever the constraints in front of them come from, as
long as they stay in the root and close no bracket there.

They may leave the root: groups are cut out before terms are read, and of nested pairs of
parentheses only the innermost are groups. An outer pair stays in the keywords and is a
group of its own when they are read again, and then its two sides meet.
-/

namespace FieldedSearch

open Query

namespace Query

variable {s u k : List Char}

/-- A text without terms adds none behind blanks, unless it closes a bracket. -/
theorem Termless.splitTerms_append_blanks (hk : Termless k) (hu : ∀ a ∈ u, Text.isBlank a)
    (hnil : u = [] → s = []) (h : Closes s ∨ ']' ∉ k) :
    (splitTerms (s ++ (u ++ k))).1 = (splitTerms s).1 := by
  cases u with
  | nil =>
    rw [hnil rfl, List.nil_append, List.nil_append, splitTerms_nil]
    exact hk
  | cons b u =>
    obtain ⟨hb, hu⟩ := List.forall_mem_cons.1 hu
    have h' : Closes s ∨ ']' ∉ u ++ k := by
      refine h.imp_right fun hclose hmem => ?_
      rcases List.mem_append.1 hmem with hmem | hmem
      · have := hu _ hmem
        contradiction
      · exact hclose hmem
    rw [List.cons_append, splitTerms_append_blank hb h', splitTerms_blanks hu, hk,
      List.append_nil]

end Query

namespace Filter

variable {f : Filter} {k : String}

/-! ## The search string without the keywords -/

theorem setKeywords_setKeywords (f : Filter) (k k' : Option String) :
    (f.setKeywords k).setKeywords k' = f.setKeywords k' := rfl

/-- The search string for a filter, without the keywords. -/
def bareQuery (f : Filter) : String := (f.setKeywords none).toQuery

/-- The texts that are written in front of the keywords. -/
def frontTexts (f : Filter) : List String :=
  (List.range (f.groups.highest + 1).toNat).flatMap (writeGroup f.groups) ++ f.writeSort

private theorem toList_toQuery (f : Filter) : f.toQuery.toList =
    Text.trim (spaced ((f.frontTexts ++ f.writeKeywords).map String.toList)) := by
  rw [toQuery, String.toList_ofList, String.toList_intercalate]
  rfl

private theorem toList_bareQuery (f : Filter) : f.bareQuery.toList =
    Text.trim (spaced (f.frontTexts.map String.toList)) := by
  have hfront : (f.setKeywords none).frontTexts = f.frontTexts := rfl
  have hkeywords : (f.setKeywords none).writeKeywords = [] := rfl
  rw [bareQuery, toList_toQuery, hfront, hkeywords, List.append_nil]

private theorem toQuery_of_empty (hk : f.keywords = some "") : f.toQuery = f.bareQuery := by
  have hkeywords : f.writeKeywords = [] := by
    unfold writeKeywords
    rw [hk]
    exact if_pos rfl
  rw [← String.toList_inj, toList_toQuery, toList_bareQuery, hkeywords, List.append_nil]

/-- The keywords stand behind the rest of the search string, and behind a blank, unless
nothing is in front of them. -/
theorem exists_toQuery_eq (hk : f.keywords = some k) (hsolid : Solid k.toList) :
    ∃ u, (∀ a ∈ u, Text.isBlank a) ∧ (u = [] → f.bareQuery.toList = []) ∧
      f.toQuery.toList = f.bareQuery.toList ++ (u ++ k.toList) := by
  have hkeywords : f.writeKeywords = [k] := by
    unfold writeKeywords
    rw [hk]
    exact if_neg fun h => hsolid.ne_nil (String.toList_eq_nil_iff.2 h)
  rw [toList_toQuery, toList_bareQuery, hkeywords, List.map_append, List.map_singleton]
  generalize f.frontTexts.map String.toList = ss
  by_cases hss : ss = []
  · rw [hss, List.nil_append, spaced_singleton, spaced_nil, trim_solid hsolid]
    exact ⟨[], fun _ ha => absurd ha List.not_mem_nil, fun _ => rfl, rfl⟩
  · rw [spaced_concat hss]
    exact exists_trim_append_blank _ hsolid

/-! ## Keywords add no terms -/

/-- Keywords without terms add none, if they add no group and close no bracket. -/
theorem numbered_toQuery (hk : f.keywords = some k) (hsolid : Solid k.toList)
    (htermless : Termless k.toList)
    (hgroups : (splitGroups f.toQuery.toList).2 = (splitGroups f.bareQuery.toList).2)
    (hclose : Closes (splitGroups f.bareQuery.toList).1 ∨ ']' ∉ k.toList) :
    numbered 0 (texts f.toQuery) = numbered 0 (texts f.bareQuery) := by
  obtain ⟨u, hu, hnil, hquery⟩ := exists_toQuery_eq hk hsolid
  have hroot : (splitGroups f.toQuery.toList).1 =
      (splitGroups f.bareQuery.toList).1 ++ (u ++ k.toList) := by
    rw [hquery] at hgroups ⊢
    exact splitGroups_append hgroups
  have hnil' : u = [] → (splitGroups f.bareQuery.toList).1 = [] := by
    intro h
    rw [hnil h, splitGroups_nil]
  unfold texts
  rw [numbered_cons, numbered_cons, hgroups, hroot,
    htermless.splitTerms_append_blanks hu hnil' hclose]

/-- What a text leaves over has no terms, as it is and trimmed. Keywords that a search string
left over add no term to the search string for a filter, if they add no group to it and close
no bracket that stands open in front of them: without them, the same terms are read, and the
same filter but for its keywords. -/
theorem leftover_inert :
    (∀ s : List Char, splitTerms (splitTerms s).2 = ([], (splitTerms s).2) ∧
      splitTerms (Text.trim (splitTerms s).2) = ([], Text.trim (splitTerms s).2)) ∧
    ∀ (f : Filter) (query : String), f.keywords = some (rootText query) →
      (splitGroups f.toQuery.toList).2 = (splitGroups f.bareQuery.toList).2 →
      Closes (splitGroups f.bareQuery.toList).1 ∨ ']' ∉ (rootText query).toList →
      (∀ group, termsOf f.toQuery group = termsOf f.bareQuery group) ∧
        ∀ g : Filter, (g.addQuery f.toQuery).setKeywords none =
          (g.addQuery f.bareQuery).setKeywords none := by
  constructor
  · intro s
    exact ⟨(termless_left s).splitTerms_eq, (termless_left s).trim.splitTerms_eq⟩
  · intro f query hk hgroups hclose
    have hnumbered : numbered 0 (texts f.toQuery) = numbered 0 (texts f.bareQuery) := by
      by_cases hne : rootText query = ""
      · rw [hne] at hk
        rw [toQuery_of_empty hk]
      · exact numbered_toQuery hk (solid_rootText hne) (termless_rootText query) hgroups hclose
    constructor
    · intro group
      rw [← filter_numbered_texts, hnumbered, filter_numbered_texts]
    · intro g
      rw [addQuery_eq, addQuery_eq, hnumbered, setKeywords_setKeywords, setKeywords_setKeywords]

theorem leftover_inert_ages :
    (ofQuery ages "age>3 old [town :)").keywords = some (rootText "age>3 old [town :)") ∧
      (splitGroups (ofQuery ages "age>3 old [town :)").toQuery.toList).2 =
        (splitGroups (ofQuery ages "age>3 old [town :)").bareQuery.toList).2 ∧
      ']' ∉ (rootText "age>3 old [town :)").toList ∧
      (∀ group, termsOf (ofQuery ages "age>3 old [town :)").toQuery group =
        termsOf (ofQuery ages "age>3 old [town :)").bareQuery group) ∧
      ∀ g : Filter, (g.addQuery (ofQuery ages "age>3 old [town :)").toQuery).setKeywords none =
        (g.addQuery (ofQuery ages "age>3 old [town :)").bareQuery).setKeywords none := by
  have hkeywords : (ofQuery ages "age>3 old [town :)").keywords =
      some (rootText "age>3 old [town :)") := by decide +kernel
  have hgroups : (splitGroups (ofQuery ages "age>3 old [town :)").toQuery.toList).2 =
      (splitGroups (ofQuery ages "age>3 old [town :)").bareQuery.toList).2 := by decide +kernel
  have hclose : ']' ∉ (rootText "age>3 old [town :)").toList := by decide +kernel
  exact ⟨hkeywords, hgroups, hclose,
    leftover_inert.2 (ofQuery ages "age>3 old [town :)") _ hkeywords hgroups (.inr hclose)⟩

/-- Of nested pairs of parentheses only the inner one is a group. The outer one stays in the
keywords and is a group when they are read again: the texts on both sides of it make a term. -/
theorem not_inert_nested :
    (ofQuery ages "age((x)y):3").keywords = some "age(y):3" ∧
      allTerms "age((x)y):3" = [] ∧
      (ofQuery ages (ofQuery ages "age((x)y):3").toQuery).constraints "age" 0 =
        [⟨.text "3", .equals, false⟩] := by
  refine ⟨by decide +kernel, by decide +kernel, ?_⟩
  have hterms : termsOf (ofQuery ages "age((x)y):3").toQuery 0 = [⟨"age", .equals, some "3"⟩] := by
    decide +kernel
  rw [constraints_ofQuery (by decide), hterms]
  rfl

end Filter

end FieldedSearch
