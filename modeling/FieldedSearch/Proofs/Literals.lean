-- SUMMARY: A literal ends at its own quote, whatever it holds and whatever stands behind it.
import FieldedSearch.Proofs.BooleanSyntax

/-!
# Literals that are read back

What is read of a literal does not depend on the text behind the quote that ends it
(`takeLiteral?_append`). So from an escaped text and a quote the reader gets back the text
itself, no more and no less.
-/

namespace FieldedSearch.BooleanQuery

variable {s v rest : List Char}

/-- The text of a literal, read from behind its opening quote, and the text behind it. -/
def readLiteral? (s : String) : Option (String × String) :=
  (takeLiteral? s.toList).map fun r => (String.ofList r.1, String.ofList r.2)

/-- What is read of a literal does not depend on what stands behind it. -/
theorem takeLiteral?_append (h : takeLiteral? s = some (v, rest)) (u : List Char) :
    takeLiteral? (s ++ u) = some (v, rest ++ u) := by
  induction s using literal_induction generalizing v with
  | nil => cases h
  | quote s =>
    obtain ⟨rfl, rfl⟩ := Prod.mk.inj (Option.some.inj ((takeLiteral?_quote s).symm.trans h))
    exact takeLiteral?_quote (s ++ u)
  | lone => cases h
  | escaped c s ih =>
    rw [takeLiteral?_backslash] at h
    obtain ⟨⟨w, rest'⟩, hw, heq⟩ := Option.map_eq_some_iff.1 h
    obtain ⟨rfl, rfl⟩ := Prod.mk.inj heq
    rw [List.cons_append, List.cons_append, takeLiteral?_backslash, ih hw]
    rfl
  | plain c s hquote hslash ih =>
    rw [takeLiteral?_cons hquote hslash] at h
    obtain ⟨⟨w, rest'⟩, hw, heq⟩ := Option.map_eq_some_iff.1 h
    obtain ⟨rfl, rfl⟩ := Prod.mk.inj heq
    rw [List.cons_append, takeLiteral?_cons hquote hslash, ih hw]
    rfl

/-- No beginning of an escaped text ends the literal. -/
theorem takeLiteral?_of_prefix {front : List Char} (h : front <+: v.flatMap escapeChar) :
    takeLiteral? front = none := by
  obtain ⟨u, hu⟩ := h
  rw [Option.eq_none_iff_forall_ne_some]
  rintro ⟨w, rest⟩ hfront
  -- the quote behind the whole text would still be left over
  have hrest := takeLiteral?_append hfront (u ++ ['\''])
  rw [← List.append_assoc, hu, takeLiteral?_flatMap_escapeChar] at hrest
  have hnil := (Prod.mk.inj (Option.some.inj hrest)).2
  simp at hnil

theorem toList_escape_append (v s : String) :
    (escape v ++ "'" ++ s).toList = v.toList.flatMap escapeChar ++ '\'' :: s.toList := by
  have hquote : "'".toList = ['\''] := rfl
  rw [String.toList_append, String.toList_append, hquote, escape, String.toList_ofList,
    List.append_assoc]
  rfl

theorem readLiteral?_append (v s : String) : readLiteral? (escape v ++ "'" ++ s) = some (v, s) := by
  rw [readLiteral?, toList_escape_append, takeLiteral?_flatMap_escapeChar, Option.map_some,
    String.ofList_toList, String.ofList_toList]

/-- An expression on a field of texts ends with the literal and a parenthesis. -/
theorem fieldExpression_text {field physical value e : String} {comparison : Comparison}
    (h : fieldExpression field physical comparison .text value = .ok e) :
    ∃ front, e = front ++ literal value ++ ")" := by
  cases comparison with
  | equals | like =>
    obtain rfl := Except.ok.inj h
    exact ⟨"(field " ++ physical ++ " ", rfl⟩
  | notEquals | notLike =>
    obtain rfl := Except.ok.inj h
    exact ⟨"(not " ++ physical ++ ":", rfl⟩
  | greater | greaterOrEqual | less | lessOrEqual => cases h

/-- Read from behind the opening quote, an escaped text with a quote behind it gives the text
itself and leaves what stands behind the quote, whatever the two are. So the escaped form of
a text is that of no other, not even with more text behind it, nothing in it ends the literal,
and in a query what stands behind the literal is read as if it stood alone. -/
theorem readLiteral?_escape (v s : String) :
    readLiteral? (escape v ++ "'" ++ s) = some (v, s) ∧
    (∀ w, escape v = escape w → v = w) ∧
    (∀ w t, escape v ++ "'" ++ s = escape w ++ "'" ++ t → v = w ∧ s = t) ∧
    (∀ front, front <+: (escape v).toList → takeLiteral? front = none) ∧
    lex .outside (literal v ++ s).toList = (lex .outside s.toList).map (.literal v.toList :: ·) ∧
    ∀ field physical comparison e, fieldExpression field physical comparison .text v = .ok e →
      ∃ front, e = front ++ "'" ++ (escape v ++ "'" ++ ")") := by
  have hsplit (w t : String) (h : escape v ++ "'" ++ s = escape w ++ "'" ++ t) : v = w ∧ s = t := by
    have hread := readLiteral?_append v s
    rw [h, readLiteral?_append] at hread
    obtain ⟨rfl, rfl⟩ := Prod.mk.inj (Option.some.inj hread)
    exact ⟨rfl, rfl⟩
  refine ⟨readLiteral?_append v s, fun w h => (hsplit w s (by rw [h])).1, hsplit, ?_,
    ?_, ?_⟩
  · intro front h
    rw [escape, String.toList_ofList] at h
    exact takeLiteral?_of_prefix h
  · rw [String.toList_append]
    exact lex_literal_append v s.toList
  · intro field physical comparison e h
    obtain ⟨front, rfl⟩ := fieldExpression_text h
    refine ⟨front, ?_⟩
    simp only [literal, String.append_assoc]

/-- A backslash with a nought behind it is no NUL, nor does the quote in the text end it. -/
example : readLiteral? "\\\\0\\0\\'' or" = some ("\\0\x00'", " or") := by decide +kernel

end FieldedSearch.BooleanQuery
