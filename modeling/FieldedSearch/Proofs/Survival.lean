-- SUMMARY: Which values are read back from the terms that state them, and what is read instead of the others.
import FieldedSearch.Proofs.Separation

/-!
# Values that survive

A value is written as it is, or in brackets if it has blanks. It is read back from
that if the brackets are its own and its first character does not make the symbol in
front of it a longer one. `splitTerms_write` reads a term back whose value survives;
`find?_splitTerms_write` says that for any other value the first term on the field is
another one, whatever stands behind.
-/

namespace FieldedSearch.Query

variable {s t rest raw : List Char} {b : Char} {c : Comparison} {field v : String}

/-- A name that can be the field of a term. -/
def IsFieldName (name : String) : Prop := name ≠ "" ∧ ∀ a ∈ name.toList, isFieldLetter a

instance (name : String) : Decidable (IsFieldName name) :=
  decidable_of_iff (name ≠ "" ∧ name.toList.all isFieldLetter) (by rw [List.all_eq_true]; rfl)

/-- The values that a term of a given comparison can state: no value; a text with
blanks but no closing bracket; a text without blanks and brackets that does not
continue the symbol and go on behind that. -/
def Survives (c : Comparison) : Option String → Prop
  | none => True
  | some v =>
    (v.toList.any Text.isBlank ∧ ']' ∉ v.toList) ∨
      (v.toList.any Text.isBlank = false ∧ '[' ∉ v.toList ∧ ']' ∉ v.toList ∧
        ¬ (2 ≤ v.length ∧ ∃ e ∈ extension? c, v.toList.head? = some e))

instance (c : Comparison) : (v : Option String) → Decidable (Survives c v)
  | none => inferInstanceAs (Decidable True)
  | some _ => inferInstanceAs (Decidable (_ ∨ _))

/-- A name that can be a field survives as a value too. -/
theorem survives_of_isFieldName (h : IsFieldName v) (c : Comparison) : Survives c (some v) := by
  have hmem {a : Char} (ha : isFieldLetter a = false) : a ∉ v.toList := by
    intro hm
    rw [h.2 a hm] at ha
    contradiction
  have hblank : v.toList.any Text.isBlank = false := by
    rw [List.any_eq_false]
    intro a ha
    rw [isBlank_of_isFieldLetter (h.2 a ha)]
    exact Bool.false_ne_true
  refine .inr ⟨hblank, hmem (by decide), hmem (by decide), ?_⟩
  rintro ⟨-, e, he, hhead⟩
  have hletter := h.2 e (List.mem_of_head? hhead)
  cases c <;> simp only [extension?, Option.mem_def, Option.some.injEq, reduceCtorEq] at he <;>
    (rw [← he] at hletter; contradiction)

/-- A value as it is written in a term. -/
def writeValue : Option String → String
  | none => nullWord
  | some v => encodeText v

/-- A term as it is written. -/
def Term.write (t : Term) : String := t.field ++ t.comparison.symbol ++ writeValue t.value

/-! ## Raw values -/

theorem isValueLetter_of_mem {a : Char} (hblank : v.toList.any Text.isBlank = false)
    (hclose : ']' ∉ v.toList) (ha : a ∈ v.toList) (hopen : a ≠ '[') : isValueLetter a := by
  have h₁ : a ≠ ']' := by
    rintro rfl
    exact hclose ha
  have h₂ : Text.isBlank a = false := by
    rw [List.any_eq_false] at hblank
    simpa using hblank a ha
  simp [isValueLetter, hopen, h₁, h₂]

theorem closes_bracket (s : List Char) : Closes ('[' :: s ++ [']']) := by
  intro p q h
  have hlast := congrArg List.getLast? h
  rw [List.getLast?_concat, List.getLast?_append] at hlast
  cases q with
  | nil => simp at hlast
  | cons a q => exact List.mem_of_getLast? (by simpa using hlast.symm)

theorem closes_letters (h : ∀ a ∈ raw, isValueLetter a) : Closes raw := by
  apply closes_of_not_mem
  intro hmem
  have := h _ hmem
  contradiction

theorem closes_field_symbol (hf : IsFieldName field) (c : Comparison) :
    Closes (field.toList ++ c.symbol.toList) := by
  apply closes_of_not_mem
  intro h
  rcases List.mem_append.1 h with h | h
  · have := hf.2 _ h
    contradiction
  · cases c <;> simp [Comparison.symbol] at h

/-! ## Reading a term back -/

private theorem takeComparison?_letters (hne : raw ≠ []) (hraw : ∀ a ∈ raw, isValueLetter a)
    (hext : ∀ e ∈ extension? c, raw.head? = some e → raw.length < 2) :
    takeComparison? (c.symbol.toList ++ raw) = some (c, raw, []) := by
  have htake := takeValue?_letters hne hraw (stopsAt_nil _)
  rw [List.append_nil] at htake
  apply takeComparison?_append htake
  intro e he u hu
  have hlen := hext e he (by rw [hu]; rfl)
  rw [hu, List.length_cons] at hlen
  have hnil : u = [] := List.eq_nil_of_length_eq_zero (by omega)
  rw [hnil]
  rfl

/-- A surviving value is written in brackets of its own, or as a run of value letters
that stands for it and does not continue the symbol. -/
private theorem writeValue_cases {v : Option String} (h : Survives c v) :
    (∃ w, v = some w ∧ ']' ∉ w.toList ∧ (writeValue v).toList = '[' :: w.toList ++ [']']) ∨
      ((writeValue v).toList ≠ [] ∧ (∀ a ∈ (writeValue v).toList, isValueLetter a) ∧
        decodeValue (writeValue v) = v ∧
        ∀ e ∈ extension? c, (writeValue v).toList.head? = some e →
          (writeValue v).toList.length < 2) := by
  cases v with
  | none =>
    refine .inr ⟨by decide, List.all_eq_true.1 (by decide), by decide, ?_⟩
    intro e he hhead
    obtain rfl : 'n' = e := by simpa [writeValue, nullWord] using hhead
    cases c <;> simp [extension?] at he
  | some v =>
    by_cases henc : v = "" ∨ v = nullWord ∨ v.toList.any Text.isBlank
    · refine .inl ⟨v, rfl, ?_, ?_⟩
      · exact h.elim (·.2) (·.2.2.1)
      · rw [writeValue, encodeText, if_pos henc]
        simp
    · have hw : writeValue (some v) = v := by rw [writeValue, encodeText, if_neg henc]
      simp only [not_or, Bool.not_eq_true] at henc
      obtain ⟨hne, hnull, hblank⟩ := henc
      rcases h with ⟨hb, -⟩ | ⟨-, hopen, hclose, hext⟩
      · rw [hblank] at hb
        contradiction
      · have hv : ∀ a ∈ v.toList, isValueLetter a := fun a ha =>
          isValueLetter_of_mem hblank hclose ha fun h => hopen (h ▸ ha)
        have hdecode := decodeValue_letters hv
        rw [String.ofList_toList, if_neg hnull] at hdecode
        rw [hw]
        refine .inr ⟨by simpa using hne, hv, hdecode, ?_⟩
        intro e he hhead
        by_contra hlen
        exact hext ⟨by rw [← String.length_toList]; omega, e, he, hhead⟩

private theorem takeComparison?_writeValue {v : Option String} (h : Survives c v) :
    takeComparison? (c.symbol.toList ++ (writeValue v).toList) =
      some (c, (writeValue v).toList, []) := by
  rcases writeValue_cases h with ⟨w, -, hw, heq⟩ | ⟨hne, hletters, -, hext⟩
  · rw [heq]
    exact takeComparison?_bracket hw
  · exact takeComparison?_letters hne hletters hext

private theorem decodeValue_writeValue {v : Option String} (h : Survives c v) :
    decodeValue (writeValue v) = v := by
  rcases writeValue_cases h with ⟨w, rfl, -, heq⟩ | ⟨-, -, hdecode, -⟩
  · rw [← String.ofList_toList (s := writeValue (some w)), heq, decodeValue_bracket,
      String.ofList_toList]
  · exact hdecode

/-- A written term with a value that survives is read back, and nothing is left over. -/
theorem splitTerms_write {t : Term} (hf : IsFieldName t.field)
    (hv : Survives t.comparison t.value) : splitTerms t.write.toList = ([t], []) := by
  have hne : t.field.toList ≠ [] := by simpa using hf.1
  unfold Term.write
  rw [String.toList_append, String.toList_append, List.append_assoc,
    splitTerms_term hne hf.2 (takeComparison?_writeValue hv), String.ofList_toList,
    String.ofList_toList, decodeValue_writeValue hv, splitTerms_nil]

/-- A written term with a value that survives closes its brackets. -/
theorem closes_write {t : Term} (hf : IsFieldName t.field) (hv : Survives t.comparison t.value) :
    Closes t.write.toList := by
  unfold Term.write
  rw [String.toList_append, String.toList_append]
  refine (closes_field_symbol hf _).append ?_
  rcases writeValue_cases hv with ⟨w, -, -, heq⟩ | ⟨-, hletters, -, -⟩
  · rw [heq]
    exact closes_bracket _
  · exact closes_letters hletters

/-! ## Values that are read -/

private theorem decodeValue_eq_some (h : ∀ a ∈ raw, isValueLetter a)
    (hv : decodeValue (String.ofList raw) = some v) : v.toList = raw := by
  rw [decodeValue_letters h] at hv
  split at hv
  · contradiction
  · rw [← Option.some.inj hv, String.toList_ofList]

/-- A value is part of the text it is read from; it has no closing bracket, and an
opening one only if one is closed in the text. -/
private theorem mem_value (h : takeValue? s = some (raw, rest))
    (hv : decodeValue (String.ofList raw) = some v) :
    (∀ a ∈ v.toList, a ∈ s) ∧ ']' ∉ v.toList ∧ ('[' ∈ v.toList → ']' ∈ s) := by
  rw [takeValue?_eq_some h]
  rcases takeValue?_cases h with ⟨body, rfl, hbody⟩ | ⟨-, hletters, -⟩
  · rw [decodeValue_bracket] at hv
    rw [← Option.some.inj hv, String.toList_ofList]
    exact ⟨fun a ha => by simp [ha], hbody, fun _ => by simp⟩
  · rw [decodeValue_eq_some hletters hv]
    refine ⟨fun a ha => List.mem_append_left _ ha, fun hm => ?_, fun hm => ?_⟩
    · have := hletters _ hm
      contradiction
    · have := hletters _ hm
      contradiction

/-- Every term of a text has its value from where a value opens in the text. -/
private theorem exists_of_mem_splitTerms {t : Term} (h : t ∈ (splitTerms s).1) :
    ∃ u raw rest, u <:+ s ∧ takeValue? u = some (raw, rest) ∧
      t.value = decodeValue (String.ofList raw) := by
  induction s using text_induction with
  | nil => simp at h
  | cons a s ha ih =>
    rw [splitTerms_cons ha] at h
    obtain ⟨u, raw, rest, hu, hvalue⟩ := ih h
    exact ⟨u, raw, rest, hu.trans (List.suffix_cons _ _), hvalue⟩
  | run w s hne hw hs hc ih =>
    rw [splitTerms_run hw hs hc] at h
    obtain ⟨u, raw, rest, hu, hvalue⟩ := ih h
    exact ⟨u, raw, rest, hu.trans (List.suffix_append _ _), hvalue⟩
  | term w s c raw rest hne hw hc ih =>
    rw [splitTerms_term hne hw hc] at h
    rcases List.mem_cons.1 h with rfl | h
    · obtain ⟨u, rfl, hu⟩ := takeValue?_of_takeComparison? hc
      rw [← List.append_assoc]
      exact ⟨u, raw, rest, List.suffix_append _ _, hu, rfl⟩
    · obtain ⟨u, raw', rest', hu, hvalue⟩ := ih h
      rw [takeComparison?_eq_some hc, ← List.append_assoc]
      exact ⟨u, raw', rest', hu.trans (List.suffix_append _ _), hvalue⟩

/-- What a term of a text compares with is taken from the text. -/
theorem mem_of_mem_value {t : Term} (h : t ∈ (splitTerms s).1) (hv : v ∈ t.value) :
    ∀ a ∈ v.toList, a ∈ s := by
  obtain ⟨u, raw, rest, hu, htake, heq⟩ := exists_of_mem_splitTerms h
  intro a ha
  exact hu.mem ((mem_value htake (heq ▸ hv)).1 a ha)

/-- No term of a text has a value with a closing bracket. -/
theorem not_mem_value {t : Term} (h : t ∈ (splitTerms s).1) (hv : v ∈ t.value) :
    ']' ∉ v.toList := by
  obtain ⟨u, raw, rest, -, htake, heq⟩ := exists_of_mem_splitTerms h
  exact (mem_value htake (heq ▸ hv)).2.1

/-- Only in a text with a closing bracket a value has an opening one. -/
private theorem mem_of_bracket_mem_value {t : Term} (h : t ∈ (splitTerms s).1) (hv : v ∈ t.value)
    (hopen : '[' ∈ v.toList) : ']' ∈ s := by
  obtain ⟨u, raw, rest, hu, htake, heq⟩ := exists_of_mem_splitTerms h
  exact hu.mem ((mem_value htake (heq ▸ hv)).2.2 hopen)

/-! ## Values that do not survive -/

/-- A text without blanks that is a value in brackets would need its last character
twice: for itself, and for what stands behind it. -/
private theorem ne_bracket_append (hv : v.toList.any Text.isBlank = false)
    (hs : s.head?.all Text.isBlank) : v.toList ++ s ≠ '[' :: v.toList ++ ']' :: rest := by
  intro h
  cases s with
  | nil =>
    have := congrArg List.length h
    simp at this
    omega
  | cons b s =>
    have hb : Text.isBlank b := by simpa using hs
    have hget := congrArg (·[v.toList.length]?) h
    have hlt : v.toList.length < ('[' :: v.toList).length := by simp
    simp only [List.getElem?_append_right (Nat.le_refl _), Nat.sub_self, List.getElem?_cons_zero,
      List.getElem?_append_left hlt] at hget
    rcases List.mem_cons.1 (List.mem_of_getElem? hget.symm) with rfl | hmem
    · contradiction
    · rw [List.any_eq_false] at hv
      exact hv b hmem hb

/-- The comparison whose symbol is longer by the character that continues it. -/
private theorem exists_longer {e : Char} (he : e ∈ extension? c) :
    ∃ c' : Comparison, c' ≠ c ∧ c'.symbol.toList = c.symbol.toList ++ [e] ∧
      extension? c' = none := by
  cases c with
  | notEquals => obtain rfl := Option.some.inj he; exact ⟨.notLike, by decide, rfl, rfl⟩
  | greater => obtain rfl := Option.some.inj he; exact ⟨.greaterOrEqual, by decide, rfl, rfl⟩
  | less => obtain rfl := Option.some.inj he; exact ⟨.lessOrEqual, by decide, rfl, rfl⟩
  | _ => simp [extension?] at he

/-- A value without brackets that continues the symbol is not read behind that symbol, but
what is left of it behind the longer one. -/
private theorem takeComparison?_ne_of_extension {e : Char} (he : e ∈ extension? c)
    (hhead : v.toList.head? = some e) (hlen : 2 ≤ v.length)
    (hletters : ∀ a ∈ v.toList, isValueLetter a) (hs : StopsAt isValueLetter s)
    (raw rest : List Char) :
    takeComparison? (c.symbol.toList ++ (v.toList ++ s)) ≠ some (c, raw, rest) := by
  intro h
  obtain ⟨c', hc', hsymbol, hnone⟩ := exists_longer he
  rw [← String.length_toList] at hlen
  cases hu : v.toList with
  | nil => simp [hu] at hhead
  | cons a u =>
    rw [hu] at hhead hlen hletters h
    obtain rfl : a = e := Option.some.inj hhead
    have hne : u ≠ [] := List.ne_nil_of_length_pos (Nat.lt_of_succ_lt_succ hlen)
    have hread := takeComparison?_append (c := c')
      (takeValue?_letters hne (List.forall_mem_cons.1 hletters).2 hs) (by simp [hnone])
    rw [hsymbol, List.append_assoc, List.singleton_append, ← List.cons_append, h] at hread
    exact hc' (congrArg Prod.fst (Option.some.inj hread)).symm

/-- Behind a symbol, a value that does not survive is not read with that symbol. -/
private theorem takeComparison?_ne_of_not_survives (hclose : ']' ∉ v.toList)
    (hv : ¬ Survives c (some v)) (hs : s.head?.all Text.isBlank)
    (h : takeComparison? (c.symbol.toList ++ v.toList ++ s) = some (c, raw, rest)) :
    decodeValue (String.ofList raw) ≠ some v := by
  intro hdecode
  simp only [Survives, hclose, not_false_eq_true, and_true, true_and, not_or,
    Bool.not_eq_true] at hv
  obtain ⟨hblank, hplain⟩ := hv
  rw [List.append_assoc] at h
  obtain ⟨t, heq, ht⟩ := takeValue?_of_takeComparison? h
  rw [List.append_cancel_left_eq] at heq
  subst heq
  rcases takeValue?_cases ht with ⟨body, rfl, -⟩ | ⟨hne, hletters, hstop⟩
  · rw [decodeValue_bracket] at hdecode
    have hbody : v.toList = body := by rw [← Option.some.inj hdecode, String.toList_ofList]
    have := takeValue?_eq_some ht
    rw [← hbody, List.append_assoc] at this
    exact ne_bracket_append hblank hs this
  · have hraw := decodeValue_eq_some hletters hdecode
    subst hraw
    have hopen : '[' ∉ v.toList := fun hm => absurd (hletters _ hm) (by decide)
    have hsrest : s = rest := by
      have := takeValue?_eq_some ht
      rwa [List.append_cancel_left_eq] at this
    -- so the value continues the symbol, and the longer one is read
    have hext : 2 ≤ v.length ∧ ∃ e ∈ extension? c, v.toList.head? = some e := by
      by_contra hext
      exact hplain ⟨hblank, hopen, hext⟩
    obtain ⟨hlen, e, he, hhead⟩ := hext
    exact takeComparison?_ne_of_extension he hhead hlen hletters (hsrest ▸ hstop) _ _ h

/-- If no comparison is read in front of a value, the value begins with a bracket that
is never closed. -/
private theorem bracket_of_takeComparison?_eq_none (hne : v ≠ "")
    (hblank : v.toList.any Text.isBlank = false) (hclose : ']' ∉ v.toList)
    (h : takeComparison? (c.symbol.toList ++ v.toList ++ s) = none) :
    '[' ∈ v.toList ∧ ']' ∉ s := by
  have hopens : opensValue (v.toList ++ s) = false :=
    takeComparison?_eq_none_iff.1 h c _ (List.append_assoc _ _ _)
  cases hu : v.toList with
  | nil => exact absurd (by simpa using hu) hne
  | cons a u =>
    rw [hu, List.cons_append] at hopens
    simp only [opensValue, Bool.or_eq_false_iff, Bool.and_eq_false_iff, beq_eq_false_iff_ne,
      List.contains_eq_mem, decide_eq_false_iff_not] at hopens
    have ha : a = '[' := by
      by_contra hopen
      rw [isValueLetter_of_mem hblank hclose (by simp [hu]) hopen] at hopens
      simp at hopens
    refine ⟨by simp [ha], fun hs => ?_⟩
    exact hopens.2.elim (fun h => h ha) fun h => h (List.mem_append_right _ hs)

/-- Where a term is written whose value has no closing bracket and does not survive,
the first term on its field is another one, whatever stands behind a blank after it. -/
theorem find?_splitTerms_write (hf : IsFieldName field) (hclose : ']' ∉ v.toList)
    (hv : ¬ Survives c (some v)) (hs : s.head?.all Text.isBlank) :
    (splitTerms ((Term.write ⟨field, c, some v⟩).toList ++ s)).1.find? (·.field == field) ≠
      some ⟨field, c, some v⟩ := by
  have hne : field.toList ≠ [] := by simpa using hf.1
  have hplain : ¬ (v = "" ∨ v = nullWord ∨ v.toList.any Text.isBlank) := by
    rintro (rfl | rfl | hb)
    · exact hv (.inr ⟨rfl, by simp, by simp, by simp⟩)
    · refine hv (.inr ⟨by decide, by decide, by decide, ?_⟩)
      cases c <;> simp [extension?, nullWord]
    · exact hv (.inl ⟨hb, hclose⟩)
  have hwrite : (Term.write ⟨field, c, some v⟩).toList ++ s =
      field.toList ++ (c.symbol.toList ++ v.toList ++ s) := by
    unfold Term.write
    rw [writeValue, encodeText, if_neg hplain]
    simp
  rw [hwrite]
  cases hc : takeComparison? (c.symbol.toList ++ v.toList ++ s) with
  | some r =>
    obtain ⟨c', raw, rest⟩ := r
    rw [splitTerms_term hne hf.2 hc, String.ofList_toList]
    intro heq
    simp only [List.find?_cons_of_pos, beq_self_eq_true, Option.some.injEq, Term.mk.injEq,
      true_and] at heq
    obtain ⟨rfl, hdecode⟩ := heq
    exact takeComparison?_ne_of_not_survives hclose hv hs hc hdecode
  | none =>
    simp only [not_or, Bool.not_eq_true] at hplain
    obtain ⟨hopen, hs'⟩ :=
      bracket_of_takeComparison?_eq_none hplain.1 hplain.2.2 hclose hc
    have hfield : ']' ∉ field.toList := by
      intro hm
      have := hf.2 _ hm
      contradiction
    have hsymbol : ']' ∉ c.symbol.toList := by cases c <;> simp [Comparison.symbol]
    intro heq
    have hmem := mem_of_bracket_mem_value (List.mem_of_find?_eq_some heq) rfl hopen
    simp [hfield, hsymbol, hclose, hs'] at hmem

/-! ## Exactly the values that survive -/

/-- A written term is read back, with nothing left over, exactly if its value survives. -/
theorem splitTerms_write_iff {t : Term} (hf : IsFieldName t.field) :
    splitTerms t.write.toList = ([t], []) ↔ Survives t.comparison t.value := by
  refine ⟨fun h => ?_, splitTerms_write hf⟩
  obtain ⟨field, c, value⟩ := t
  cases value with
  | none => exact True.intro
  | some v =>
    have hmem : (⟨field, c, some v⟩ : Term) ∈
        (splitTerms (Term.write ⟨field, c, some v⟩).toList).1 := by
      rw [h]
      exact List.mem_singleton_self _
    by_contra hnot
    apply find?_splitTerms_write (s := []) hf (not_mem_value hmem rfl) hnot rfl
    rw [List.append_nil, h, List.find?_cons_of_pos (by simp)]

/-- A text survives that has blanks but no closing bracket, or that has neither blanks nor
brackets and does not make the symbol in front of it a longer one and go on. -/
theorem survives_some_iff : Survives c (some v) ↔
    (v.toList.any Text.isBlank ∧ ']' ∉ v.toList) ∨
      (v.toList.any Text.isBlank = false ∧ '[' ∉ v.toList ∧ ']' ∉ v.toList ∧
        ¬ (2 ≤ v.length ∧ (v.toList.head? = some '=' ∧ (c = .greater ∨ c = .less) ∨
          v.toList.head? = some '~' ∧ c = .notEquals))) := by
  cases c <;> simp [Survives, extension?]

/-- Behind the name of a field and a symbol, a value is read back as it is, and nothing is
left over, exactly if it is null or survives as a text. -/
theorem splitTerms_encodeValue_iff (hf : IsFieldName field) (c : Comparison) :
    (∀ v : String,
      splitTerms (field ++ c.symbol ++ encodeValue (.text v)).toList = ([⟨field, c, some v⟩], []) ↔
        (v.toList.any Text.isBlank ∧ ']' ∉ v.toList) ∨
          (v.toList.any Text.isBlank = false ∧ '[' ∉ v.toList ∧ ']' ∉ v.toList ∧
            ¬ (2 ≤ v.length ∧ (v.toList.head? = some '=' ∧ (c = .greater ∨ c = .less) ∨
              v.toList.head? = some '~' ∧ c = .notEquals)))) ∧
      splitTerms (field ++ c.symbol ++ encodeValue .null).toList = ([⟨field, c, none⟩], []) := by
  constructor
  · intro v
    rw [← survives_some_iff]
    exact splitTerms_write_iff (t := ⟨field, c, some v⟩) hf
  · exact splitTerms_write (t := ⟨field, c, none⟩) hf True.intro

/-- Behind `>`, a value with a blank keeps its equals sign, and one without loses it. -/
theorem splitTerms_encodeValue_age :
    IsFieldName "age" ∧
      splitTerms "age>[= 5]".toList = ([⟨"age", .greater, some "= 5"⟩], []) ∧
      splitTerms "age>=5".toList ≠ ([⟨"age", .greater, some "=5"⟩], []) := by
  have hage : IsFieldName "age" := by decide
  have hiff := (splitTerms_encodeValue_iff hage .greater).1
  refine ⟨hage, (hiff "= 5").2 (by decide), fun h => ?_⟩
  have hnot := (hiff "=5").1 h
  revert hnot
  decide

end FieldedSearch.Query
