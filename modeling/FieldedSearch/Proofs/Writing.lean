-- SUMMARY: The terms that a filter states, and the pieces of the search string that it is written as.
import FieldedSearch.Proofs.Changes
import FieldedSearch.Proofs.Pieces
import FieldedSearch.Proofs.Survival

/-!
# Writing a filter

A filter states a term for each constraint and up to two terms for its sort. Its search
string is made up of pieces: the terms of group 0, one group for each number up to the
highest, the terms of the sort, and the keywords. If no value and no keyword holds a
parenthesis, these pieces are what `Query.texts` finds in the search string.
-/

namespace FieldedSearch

open Query

/-- The registries of which a search string can mention every field: the names consist of
field letters, and none is a word with a meaning of its own. -/
def Registry.Readable (r : Registry) : Prop :=
  ∀ name ∈ r.names, IsFieldName name ∧ name ∉ [Filter.sortWord, Filter.orderWord, nullWord]

instance (r : Registry) : Decidable r.Readable := inferInstanceAs (Decidable (∀ _ ∈ _, _))

/-! ## Terms and their texts -/

/-- The text by which a term states a value; null is stated without one. -/
def Value.stated : Value → Option String
  | .null => none
  | .bool b => some (if b then "1" else "0")
  | v => some v.display

theorem encodeValue_eq (v : Value) : encodeValue v = writeValue v.stated := by
  cases v with
  | bool b => cases b <;> rfl
  | _ => rfl

namespace Query

variable {t : Term} {ts : List Term}

/-- The texts of terms with blanks between them. -/
def joined (ts : List Term) : List Char := spaced (ts.map (·.write.toList))

/-- A value is written as a text that ends with no blank. -/
private theorem getLast?_writeValue (v : Option String) :
    ∃ a ∈ (writeValue v).toList.getLast?, Text.isBlank a = false := by
  cases v with
  | none => exact ⟨'l', by decide, by decide⟩
  | some v =>
    rw [writeValue, encodeText]
    split
    · refine ⟨']', ?_, by decide⟩
      rw [String.toList_append]
      exact List.getLast?_concat
    · next h =>
      simp only [not_or, Bool.not_eq_true, List.any_eq_false] at h
      obtain ⟨hne, -, hblank⟩ := h
      have hnil : v.toList ≠ [] := by simpa using hne
      refine ⟨v.toList.getLast hnil, List.getLast?_eq_some_getLast hnil, ?_⟩
      simpa using hblank _ (List.getLast_mem hnil)

theorem solid_write (hf : IsFieldName t.field) : Solid t.write.toList := by
  obtain ⟨hne, hletters⟩ := hf
  obtain ⟨b, hb, hblank⟩ := getLast?_writeValue t.value
  unfold Term.write
  rw [String.toList_append, String.toList_append]
  constructor
  · cases hw : t.field.toList with
    | nil => exact absurd (String.toList_eq_nil_iff.1 hw) hne
    | cons a w =>
      rw [hw] at hletters
      exact ⟨a, rfl, isBlank_of_isFieldLetter (hletters a List.mem_cons_self)⟩
  · refine ⟨b, ?_, hblank⟩
    rw [List.getLast?_append, Option.mem_def.1 hb]
    rfl

theorem solid_joined (hne : ts ≠ []) (h : ∀ t ∈ ts, IsFieldName t.field) : Solid (joined ts) := by
  apply solid_spaced
  · simpa using hne
  · intro s hs
    obtain ⟨t, ht, rfl⟩ := List.mem_map.1 hs
    exact solid_write (h t ht)

private theorem plain_letters {s : List Char} (h : ∀ a ∈ s, isFieldLetter a) : Plain s := by
  constructor
  · intro hm
    have := h _ hm
    contradiction
  · intro hm
    have := h _ hm
    contradiction

theorem plain_write (hf : IsFieldName t.field) (hv : ∀ v ∈ t.value, Plain v.toList) :
    Plain t.write.toList := by
  have hsymbol : Plain t.comparison.symbol.toList := by
    cases t.comparison <;> decide
  have hvalue : Plain (writeValue t.value).toList := by
    cases hval : t.value with
    | none => decide
    | some v =>
      have hv := hv v hval
      rw [writeValue, encodeText]
      split
      · have hopen : Plain "[".toList := by decide
        have hclose : Plain "]".toList := by decide
        rw [String.toList_append, String.toList_append]
        exact (hopen.append hv).append hclose
      · exact hv
  unfold Term.write
  rw [String.toList_append, String.toList_append]
  exact ((plain_letters hf.2).append hsymbol).append hvalue

theorem plain_joined (h : ∀ t ∈ ts, IsFieldName t.field ∧ ∀ v ∈ t.value, Plain v.toList) :
    Plain (joined ts) := by
  apply plain_spaced
  intro s hs
  obtain ⟨t, ht, rfl⟩ := List.mem_map.1 hs
  exact plain_write (h t ht).1 (h t ht).2

theorem closes_joined
    (h : ∀ t ∈ ts, IsFieldName t.field ∧ Survives t.comparison t.value) : Closes (joined ts) := by
  apply closes_spaced
  intro s hs
  obtain ⟨t, ht, rfl⟩ := List.mem_map.1 hs
  exact closes_write (h t ht).1 (h t ht).2

/-- Terms whose values survive are read back, and only the blanks between them are left. -/
theorem splitTerms_joined
    (h : ∀ t ∈ ts, IsFieldName t.field ∧ Survives t.comparison t.value) :
    (splitTerms (joined ts)).1 = ts ∧ ∀ a ∈ left (joined ts), Text.isBlank a := by
  have hread : ∀ t ∈ ts, splitTerms t.write.toList = ([t], []) := fun t ht =>
    splitTerms_write (h t ht).1 (h t ht).2
  have hcloses : ∀ s ∈ (ts.map (·.write.toList)).dropLast, Closes s := by
    intro s hs
    obtain ⟨t, ht, rfl⟩ := List.mem_map.1 ((List.dropLast_sublist _).mem hs)
    exact closes_write (h t ht).1 (h t ht).2
  unfold left
  rw [joined, splitTerms_spaced hcloses]
  constructor
  · rw [List.flatMap_map]
    calc ts.flatMap (fun t => (splitTerms t.write.toList).1)
      _ = ts.flatMap fun t => [t] := List.flatMap_congr fun t ht => by rw [hread t ht]
      _ = ts := List.flatMap_singleton' ts
  · refine forall_mem_spaced (p := fun a => Text.isBlank a) (by decide) ?_
    intro s hs a ha
    obtain ⟨w, hw, rfl⟩ := List.mem_map.1 hs
    obtain ⟨t, ht, rfl⟩ := List.mem_map.1 hw
    unfold left at ha
    rw [hread t ht] at ha
    contradiction

end Query

/-! ## The terms of a filter -/

namespace Filter

variable {f : Filter} {group : Int} {field : String} {t : Term}

/-- The term that states a constraint. -/
def stateConstraint (field : String) (c : Constraint) : Term := ⟨field, c.comparison, c.value.stated⟩

theorem writeConstraint_eq (field : String) (c : Constraint) :
    writeConstraint field c = (stateConstraint field c).write := by
  unfold writeConstraint
  rw [encodeValue_eq]
  rfl

/-- The terms that state the constraints of a group. -/
def statedTerms (f : Filter) (group : Int) : List Term :=
  (f.groups.fields group).flatMap fun (field, cs) => cs.map (stateConstraint field)

theorem statedTerms_of_not_mem (h : group ∉ f.groups.numbers) : f.statedTerms group = [] := by
  unfold statedTerms
  rw [Groups.fields_of_not_mem h]
  rfl

/-- The terms that state the sort, as far as it differs from that of the empty filter. -/
def sortTerms (f : Filter) : List Term :=
  match f.sortField with
  | some name => [⟨sortWord, .equals, some name⟩, ⟨orderWord, .equals, some f.sortOrder.word⟩]
  | none =>
    if f.sortOrder = .descending then []
    else [⟨orderWord, .equals, some f.sortOrder.word⟩]

theorem writeFields_eq (f : Filter) (group : Int) :
    writeFields (f.groups.fields group) = (f.statedTerms group).map Term.write := by
  unfold writeFields
  rw [statedTerms, List.map_flatMap]
  congr 1
  funext ⟨field, cs⟩
  rw [List.map_map]
  exact List.map_congr_left fun c _ => writeConstraint_eq field c

/-- The terms on a field state the constraints on it. -/
theorem filter_statedTerms (hf : f.Keyed) (group : Int) (field : String) :
    (f.statedTerms group).filter (·.field = field) =
      (f.constraints field group).map (stateConstraint field) := by
  have hdistinct := hf.distinct group
  simp only [statedTerms, Filter.constraints, Groups.constraints]
  generalize f.groups.fields group = fields at hdistinct ⊢
  have hself : ∀ (name : String) (cs : List Constraint),
      (cs.map (stateConstraint name)).filter (·.field = name) = cs.map (stateConstraint name) := by
    intro name cs
    apply List.filter_eq_self.2
    intro t ht
    obtain ⟨c, -, rfl⟩ := List.mem_map.1 ht
    simp [stateConstraint]
  have hother : ∀ (name : String) (cs : List Constraint), name ≠ field →
      (cs.map (stateConstraint name)).filter (·.field = field) = [] := by
    intro name cs hne
    apply List.filter_eq_nil_iff.2
    intro t ht
    obtain ⟨c, -, rfl⟩ := List.mem_map.1 ht
    exact decide_eq_true_iff.not.2 hne
  induction fields with
  | nil => rfl
  | cons e rest ih =>
    obtain ⟨name, cs⟩ := e
    simp only [Entries.names, List.map_cons, List.nodup_cons] at hdistinct
    rw [List.flatMap_cons, List.filter_append, ih hdistinct.2]
    by_cases hname : field = name
    · subst hname
      rw [hself, Entries.get?_cons_self, Entries.get?_eq_none_iff.2 hdistinct.1]
      exact List.append_nil _
    · rw [hother name cs (Ne.symm hname), Entries.get?_cons_of_ne hname]
      rfl

/-- The terms of a group state its constraints. -/
theorem mem_statedTerms (hf : f.Keyed) :
    t ∈ f.statedTerms group ↔
      ∃ c ∈ f.constraints t.field group, stateConstraint t.field c = t := by
  have hfilter := filter_statedTerms hf group t.field
  rw [← List.mem_map, ← hfilter, List.mem_filter]
  simp

theorem field_mem_of_mem_statedTerms (h : t ∈ f.statedTerms group) :
    t.field ∈ f.fieldNames group := by
  obtain ⟨⟨field, cs⟩, he, ht⟩ := List.mem_flatMap.1 h
  obtain ⟨c, -, rfl⟩ := List.mem_map.1 ht
  exact List.mem_map.2 ⟨(field, cs), he, rfl⟩

private theorem eraseDups_flatMap_names {fields : FieldConstraints}
    (hdistinct : (Entries.names fields).Nodup) (hne : ∀ e ∈ fields, e.2 ≠ []) :
    (fields.flatMap fun e => e.2.map fun _ => e.1).eraseDups = Entries.names fields := by
  induction fields with
  | nil => rfl
  | cons e rest ih =>
    obtain ⟨name, cs⟩ := e
    obtain ⟨hcs, hrest⟩ := List.forall_mem_cons.1 hne
    simp only [Entries.names, List.map_cons, List.nodup_cons] at hdistinct
    cases cs with
    | nil => exact absurd rfl hcs
    | cons c cs =>
      have hsame : (cs.map fun _ => name).filter (fun b => !b == name) = [] := by
        rw [List.filter_eq_nil_iff]
        intro b hb
        obtain ⟨-, -, rfl⟩ := List.mem_map.1 hb
        simp
      have hother : (rest.flatMap fun e => e.2.map fun _ => e.1).filter
          (fun b => !b == name) = rest.flatMap fun e => e.2.map fun _ => e.1 := by
        rw [List.filter_eq_self]
        intro b hb
        obtain ⟨⟨n, ds⟩, he, hb⟩ := List.mem_flatMap.1 hb
        obtain ⟨-, -, rfl⟩ := List.mem_map.1 hb
        have hbn : n ≠ name := by
          rintro rfl
          exact hdistinct.1 (List.mem_map.2 ⟨_, he, rfl⟩)
        simpa using hbn
      rw [List.flatMap_cons, List.map_cons, List.cons_append, List.eraseDups_cons,
        List.filter_append, hsame, hother, List.nil_append, ih hdistinct.2 hrest]
      rfl

/-- The fields of a group are those of its terms, in the order of their first terms. -/
theorem eraseDups_statedTerms (hf : f.WellFormed) (group : Int) :
    ((f.statedTerms group).map (·.field)).eraseDups = f.fieldNames group := by
  have hne : ∀ e ∈ f.groups.fields group, e.2 ≠ [] := by
    rintro ⟨name, cs⟩ he
    have hget := Entries.get?_of_mem (hf.distinct group) he
    have hname : name ∈ f.fieldNames group := List.mem_map.2 ⟨(name, cs), he, rfl⟩
    have hcs := hf.constrained group name hname
    rwa [Filter.constraints, Groups.constraints, hget] at hcs
  have hmap : (f.statedTerms group).map (·.field) =
      (f.groups.fields group).flatMap fun e => e.2.map fun _ => e.1 := by
    unfold statedTerms
    rw [List.map_flatMap]
    exact List.flatMap_congr fun e _ => List.map_map
  rw [hmap, eraseDups_flatMap_names (hf.distinct group) hne]
  rfl

/-! ## The pieces of a search string -/

/-- Terms are one piece, if there are any. -/
def textPieces (ts : List Term) : List Piece := if ts = [] then [] else [.text (joined ts)]

/-- The number of groups that are written behind the root. -/
def groupCount (f : Filter) : Nat := f.groups.highest.toNat

/-- The groups behind the root, the empty ones included. -/
def groupPieces (f : Filter) : List Piece :=
  (List.range f.groupCount).map fun i => .group (joined (f.statedTerms (i + 1 : Nat)))

/-- The keywords are one piece, if there are any. -/
def keywordPieces (f : Filter) : List Piece :=
  (f.keywords.filter (· ≠ "")).toList.map fun k => .text k.toList

/-- The pieces of the search string for a filter. -/
def pieces (f : Filter) : List Piece :=
  textPieces (f.statedTerms 0) ++ f.groupPieces ++ textPieces f.sortTerms ++ f.keywordPieces

private theorem toList_intercalate_writes (ts : List Term) :
    (" ".intercalate (ts.map Term.write)).toList = joined ts := by
  rw [String.toList_intercalate, List.map_map]
  rfl

private theorem writeGroup_zero (f : Filter) :
    (writeGroup f.groups 0).map String.toList = (textPieces (f.statedTerms 0)).map Piece.write := by
  have hwrite : writeGroup f.groups 0 =
      if f.statedTerms 0 = [] then [] else [" ".intercalate ((f.statedTerms 0).map Term.write)] := by
    simp [writeGroup, writeFields_eq]
  rw [hwrite, textPieces]
  split
  · rfl
  · rw [List.map_singleton, toList_intercalate_writes]
    rfl

private theorem writeGroup_succ (f : Filter) (i : Nat) :
    (writeGroup f.groups (i + 1)).map String.toList =
      [(Piece.group (joined (f.statedTerms (i + 1 : Nat)))).write] := by
  unfold writeGroup
  rw [writeFields_eq, if_pos (Nat.succ_pos i), List.map_singleton, String.toList_append,
    String.toList_append, toList_intercalate_writes]
  rfl

/-- Where no group has a number from 0, group 0 states nothing either. -/
private theorem statedTerms_of_highest_neg (h : f.groups.highest < 0) : f.statedTerms 0 = [] := by
  have hnot : (0 : Int) ∉ f.groups.numbers := by
    intro hmem
    have := Groups.le_highest hmem
    omega
  exact statedTerms_of_not_mem hnot

theorem lt_groupCount {i : Nat} (h : Int.ofNat (i + 1) ∈ f.groups.numbers) : i < f.groupCount := by
  have hle := Groups.le_highest h
  simp only [Int.ofNat_eq_natCast] at hle
  unfold groupCount
  omega

private theorem writeGroups_eq (f : Filter) :
    ((List.range (f.groups.highest + 1).toNat).flatMap (writeGroup f.groups)).map String.toList =
      (textPieces (f.statedTerms 0) ++ f.groupPieces).map Piece.write := by
  by_cases hneg : f.groups.highest < 0
  · have hcount : (f.groups.highest + 1).toNat = 0 := by omega
    have hpieces : f.groupCount = 0 := by rw [groupCount]; omega
    rw [hcount, statedTerms_of_highest_neg hneg, groupPieces, hpieces]
    rfl
  · have hcount : (f.groups.highest + 1).toNat = f.groupCount + 1 := by rw [groupCount]; omega
    rw [hcount, List.range_succ_eq_map, List.flatMap_cons, List.map_append, writeGroup_zero,
      List.map_append, groupPieces, List.flatMap_map, List.map_flatMap, List.map_map]
    congr 1
    rw [List.map_eq_flatMap]
    exact List.flatMap_congr fun i _ => writeGroup_succ f i

theorem encodeText_of_isFieldName {name : String} (h : IsFieldName name) (hnull : name ≠ nullWord) :
    encodeText name = name := by
  have hblank : ¬ name.toList.any Text.isBlank = true := by
    rw [List.any_eq_true]
    rintro ⟨a, ha, hb⟩
    rw [isBlank_of_isFieldLetter (h.2 a ha)] at hb
    contradiction
  unfold encodeText
  rw [if_neg]
  exact not_or.2 ⟨h.1, not_or.2 ⟨hnull, hblank⟩⟩

private theorem write_word {word value : String} (h : encodeText value = value) :
    (Term.write ⟨word, .equals, some value⟩) = writeWord word value := by
  unfold Term.write
  rw [writeValue, h, writeWord]

private theorem writeSort_eq (h : ∀ name ∈ f.sortField, encodeText name = name) :
    f.writeSort.map String.toList = (textPieces f.sortTerms).map Piece.write := by
  have horder : encodeText f.sortOrder.word = f.sortOrder.word := by
    cases f.sortOrder <;> decide +kernel
  cases hs : f.sortField with
  | some name =>
    have hjoined : joined f.sortTerms =
        (writeWord sortWord name ++ " " ++ writeWord orderWord f.sortOrder.word).toList := by
      have hterms : f.sortTerms =
          [⟨sortWord, .equals, some name⟩, ⟨orderWord, .equals, some f.sortOrder.word⟩] := by
        unfold sortTerms
        rw [hs]
      rw [hterms, joined, List.map_cons, List.map_singleton, spaced_cons_cons, spaced_singleton,
        write_word (h name hs), write_word horder, String.toList_append, String.toList_append,
        List.append_assoc]
      rfl
    have hne : f.sortTerms ≠ [] := by simp [sortTerms, hs]
    unfold writeSort
    rw [hs, textPieces, if_neg hne, hjoined]
    rfl
  | none =>
    unfold writeSort
    rw [sortTerms, hs]
    dsimp only
    split
    · rfl
    · have hjoined : joined [⟨orderWord, .equals, some f.sortOrder.word⟩] =
          (writeWord orderWord f.sortOrder.word).toList := by
        unfold joined
        rw [List.map_singleton, spaced_singleton, write_word horder]
      unfold textPieces
      rw [if_neg (List.cons_ne_nil _ _), hjoined]
      rfl

private theorem writeKeywords_eq (f : Filter) :
    f.writeKeywords.map String.toList = f.keywordPieces.map Piece.write := by
  unfold writeKeywords
  rw [keywordPieces]
  cases f.keywords with
  | none => rfl
  | some k => by_cases hk : k = "" <;> simp [hk, Option.filter, Piece.write]

/-- A filter is written as its pieces. -/
theorem toQuery_eq (h : ∀ name ∈ f.sortField, encodeText name = name) :
    f.toQuery = String.ofList (Text.trim (spaced (f.pieces.map Piece.write))) := by
  have hpieces : f.pieces.map Piece.write =
      (((List.range (f.groups.highest + 1).toNat).flatMap (writeGroup f.groups)) ++ f.writeSort ++
        f.writeKeywords).map String.toList := by
    unfold pieces
    rw [List.map_append, List.map_append, ← writeGroups_eq, ← writeSort_eq h, ← writeKeywords_eq,
      List.map_append, List.map_append]
  rw [toQuery, String.toList_intercalate, hpieces]
  rfl

/-! ## Finding the pieces again -/

/-- The filters whose pieces are found again: only readable names are registered, no value
and no keyword holds a parenthesis, and the keywords are a text without terms that neither
begins nor ends with a blank. -/
structure Legible (f : Filter) : Prop where
  names : f.registry.Readable
  values : ∀ group field, ∀ c ∈ f.constraints field group, ∀ v ∈ c.value.stated, Plain v.toList
  keywords : ∀ k ∈ f.keywords, Plain k.toList ∧ Solid k.toList ∧ Termless k.toList

theorem Legible.not_contains (hl : f.Legible) {word : String}
    (h : word ∈ [sortWord, orderWord, nullWord]) : f.registry.contains word = false := by
  cases hr : f.registry.contains word with
  | false => rfl
  | true => exact absurd h (hl.names word (Registry.contains_iff.1 hr)).2

variable (hf : f.WellFormed) (hl : f.Legible)

include hf hl

theorem isFieldName_of_mem_statedTerms (h : t ∈ f.statedTerms group) : IsFieldName t.field := by
  have hr := hf.registered group t.field (field_mem_of_mem_statedTerms h)
  exact (hl.names t.field (Registry.contains_iff.1 hr)).1

theorem plain_of_mem_statedTerms (h : t ∈ f.statedTerms group) :
    ∀ v ∈ t.value, Plain v.toList := by
  obtain ⟨c, hc, heq⟩ := (mem_statedTerms hf.toKeyed).1 h
  rw [← heq]
  exact hl.values group _ c hc

theorem isFieldName_of_mem_sortField {name : String} (h : name ∈ f.sortField) :
    IsFieldName name ∧ name ≠ nullWord := by
  obtain ⟨hname, hwords⟩ := hl.names name (Registry.contains_iff.1 (hf.sorted name h))
  exact ⟨hname, fun heq => hwords (by simp [heq])⟩

theorem isFieldName_of_mem_sortTerms (h : t ∈ f.sortTerms) :
    IsFieldName t.field ∧ ∃ v, t.value = some v ∧ IsFieldName v ∧ v ≠ nullWord := by
  have hsort : IsFieldName sortWord := by decide
  have horder : IsFieldName orderWord := by decide
  have hword : IsFieldName f.sortOrder.word ∧ f.sortOrder.word ≠ nullWord := by
    cases f.sortOrder <;> decide
  unfold sortTerms at h
  split at h
  · next name hs =>
    rcases List.mem_cons.1 h with rfl | h
    · exact ⟨hsort, name, rfl, isFieldName_of_mem_sortField hf hl hs⟩
    · rw [List.mem_singleton.1 h]
      exact ⟨horder, _, rfl, hword⟩
  · split at h
    · contradiction
    · rw [List.mem_singleton.1 h]
      exact ⟨horder, _, rfl, hword⟩

omit hf hl in
private theorem exists_of_mem_keywordPieces {p : Piece} (h : p ∈ f.keywordPieces) :
    ∃ k ∈ f.keywords, p = .text k.toList := by
  obtain ⟨k, hk, rfl⟩ := List.mem_map.1 h
  exact ⟨k, (Option.filter_eq_some_iff.1 (Option.mem_toList.1 hk)).1, rfl⟩

omit hf hl in
private theorem forall_mem_textPieces {P : Piece → Prop} {ts : List Term}
    (h : ts ≠ [] → P (.text (joined ts))) : ∀ p ∈ textPieces ts, P p := by
  intro p hp
  unfold textPieces at hp
  split at hp
  · contradiction
  · next hne =>
    rw [List.mem_singleton.1 hp]
    exact h hne

private theorem plain_pieces : ∀ p ∈ f.pieces, Plain p.body := by
  have hstated (g : Int) : Plain (joined (f.statedTerms g)) :=
    plain_joined fun t ht =>
      ⟨isFieldName_of_mem_statedTerms hf hl ht, plain_of_mem_statedTerms hf hl ht⟩
  have hsort : Plain (joined f.sortTerms) := by
    refine plain_joined fun t ht => ?_
    obtain ⟨hname, v, hv, hvalue, -⟩ := isFieldName_of_mem_sortTerms hf hl ht
    refine ⟨hname, fun w hw => ?_⟩
    obtain rfl : v = w := Option.some.inj (hv.symm.trans hw)
    exact plain_letters hvalue.2
  intro p hp
  simp only [pieces, List.mem_append] at hp
  rcases hp with ((hp | hp) | hp) | hp
  · exact forall_mem_textPieces (P := fun p => Plain p.body) (fun _ => hstated 0) p hp
  · obtain ⟨i, -, rfl⟩ := List.mem_map.1 hp
    exact hstated (i + 1 : Nat)
  · exact forall_mem_textPieces (P := fun p => Plain p.body) (fun _ => hsort) p hp
  · obtain ⟨k, hk, rfl⟩ := exists_of_mem_keywordPieces hp
    exact (hl.keywords k hk).1

private theorem solid_pieces : ∀ p ∈ f.pieces, Solid p.write := by
  intro p hp
  simp only [pieces, List.mem_append] at hp
  rcases hp with ((hp | hp) | hp) | hp
  · refine forall_mem_textPieces (P := fun p => Solid p.write) (fun hne => ?_) p hp
    exact solid_joined hne fun t ht => isFieldName_of_mem_statedTerms hf hl ht
  · obtain ⟨i, -, rfl⟩ := List.mem_map.1 hp
    have hopen : Solid ['('] := by decide
    exact hopen.append _ (by decide : Solid [')'])
  · refine forall_mem_textPieces (P := fun p => Solid p.write) (fun hne => ?_) p hp
    exact solid_joined hne fun t ht => (isFieldName_of_mem_sortTerms hf hl ht).1
  · obtain ⟨k, hk, rfl⟩ := exists_of_mem_keywordPieces hp
    exact (hl.keywords k hk).2.1

/-- The texts of the search string for a filter are those of its pieces. -/
theorem texts_toQuery : texts f.toQuery = spaced (f.pieces.map Piece.root) ::
    (List.range f.groupCount).map fun i => joined (f.statedTerms (i + 1 : Nat)) := by
  have hwrite : f.toQuery.toList = spaced (f.pieces.map Piece.write) := by
    rw [toQuery_eq, String.toList_ofList]
    · by_cases hnil : f.pieces = []
      · rw [hnil]
        rfl
      · apply trim_solid
        apply solid_spaced (by simpa using hnil)
        intro s hs
        obtain ⟨p, hp, rfl⟩ := List.mem_map.1 hs
        exact solid_pieces hf hl p hp
    · intro name hname
      obtain ⟨hfield, hnull⟩ := isFieldName_of_mem_sortField hf hl hname
      exact encodeText_of_isFieldName hfield hnull
  have hgroups : f.pieces.flatMap Piece.groups =
      (List.range f.groupCount).map fun i => joined (f.statedTerms (i + 1 : Nat)) := by
    have htext (ts : List Term) : (textPieces ts).flatMap Piece.groups = [] := by
      unfold textPieces
      split <;> rfl
    have hkeywords : f.keywordPieces.flatMap Piece.groups = [] := by
      unfold keywordPieces
      rw [List.flatMap_map]
      exact List.flatMap_eq_nil_iff.2 fun _ _ => rfl
    unfold pieces
    rw [List.flatMap_append, List.flatMap_append, List.flatMap_append, htext, htext, hkeywords,
      List.nil_append, List.append_nil, List.append_nil, groupPieces, List.flatMap_map,
      List.map_eq_flatMap]
    rfl
  unfold texts
  rw [hwrite, splitGroups_spaced (plain_pieces hf hl), hgroups]

end Filter

end FieldedSearch
