-- SUMMARY: What stands unquoted in a boolean query, and exactly which numeric values are read back.
import FieldedSearch.Proofs.BooleanReading
import FieldedSearch.Proofs.RoundTrip

/-!
# Unquoted values

A value for a field of numbers goes into the query as it is, so it may end its term and
begin another. `worded_of_parse` says what cannot be read from any query: a blank, a
parenthesis or a quote in what is not quoted. From this follows exactly which values are
read back as the one comparison that they were given for: those that consist of word
letters and whose dots are not taken for those of a bound.
-/

namespace FieldedSearch.BooleanQuery

/-! ## What is not quoted in a query -/

/-- What is not quoted in the tree consists of word letters. -/
inductive Tree.Worded : Tree → Prop
  | quoted (name s : String) : Worded (.equal name (.quoted s))
  | bare (name : String) {s : String} (h : ∀ c ∈ s.toList, isWordLetter c) :
    Worded (.equal name (.bare s))
  | atLeast (name : String) {s : String} (h : ∀ c ∈ s.toList, isWordLetter c) :
    Worded (.atLeast name s)
  | atMost (name : String) {s : String} (h : ∀ c ∈ s.toList, isWordLetter c) :
    Worded (.atMost name s)
  | negation {t : Tree} (h : Worded t) : Worded (.negation t)
  | all {ts : List Tree} (h : ∀ t ∈ ts, Worded t) : Worded (.all ts)
  | any {ts : List Tree} (h : ∀ t ∈ ts, Worded t) : Worded (.any ts)

/-- A word among the tokens consists of word letters. -/
def Token.Worded : Token → Prop
  | .word w => ∀ c ∈ w, isWordLetter c
  | _ => True

/-- What is read of a word consists of word letters. -/
def Place.Worded : Place → Prop
  | .word w => ∀ c ∈ w, isWordLetter c
  | _ => True

/-- All that the reader has read is worded. -/
structure Reader.Worded (r : Reader) : Prop where
  trees : ∀ t ∈ r.trees, t.Worded
  stack : ∀ e ∈ r.stack, ∀ t ∈ e.2, t.Worded

variable {p p' : Place} {ch : Char} {tokens : List Token}

private theorem worded_start (h : start ch = some (tokens, p)) :
    (∀ t ∈ tokens, t.Worded) ∧ p.Worded := by
  unfold start at h
  split_ifs at h with hblank hopen hclose hquote hdouble
  case neg =>
    obtain ⟨rfl, rfl⟩ := Prod.mk.inj (Option.some.inj h)
    have hc : isWordLetter ch := by simp [isWordLetter, hblank, hopen, hclose, hquote, hdouble]
    exact ⟨List.forall_mem_nil _, List.forall_mem_singleton.2 hc⟩
  all_goals
    obtain ⟨rfl, rfl⟩ := Prod.mk.inj (Option.some.inj h)
    simp [Token.Worded, Place.Worded]

private theorem worded_step (hp : p.Worded) (h : step p ch = some (tokens, p')) :
    (∀ t ∈ tokens, t.Worded) ∧ p'.Worded := by
  cases p with
  | outside => exact worded_start h
  | word w =>
    rw [step] at h
    split at h
    · next hc =>
      obtain ⟨rfl, rfl⟩ := Prod.mk.inj (Option.some.inj h)
      exact ⟨List.forall_mem_nil _, List.forall_mem_append.2 ⟨hp, List.forall_mem_singleton.2 hc⟩⟩
    · obtain ⟨⟨ts, q⟩, hstart, heq⟩ := Option.map_eq_some_iff.1 h
      obtain ⟨rfl, rfl⟩ := Prod.mk.inj heq
      obtain ⟨hts, hq⟩ := worded_start hstart
      exact ⟨List.forall_mem_cons.2 ⟨hp, hts⟩, hq⟩
  | literal s =>
    rw [step] at h
    split_ifs at h <;> obtain ⟨rfl, rfl⟩ := Prod.mk.inj (Option.some.inj h) <;>
      simp [Token.Worded, Place.Worded]
  | escaped s =>
    obtain ⟨rfl, rfl⟩ := Prod.mk.inj (Option.some.inj h)
    exact ⟨List.forall_mem_nil _, trivial⟩

/-- The lexer makes words of word letters only. -/
theorem worded_of_lex {s : List Char} (hp : p.Worded) (h : lex p s = some tokens) :
    ∀ t ∈ tokens, t.Worded := by
  induction s generalizing p tokens with
  | nil =>
    cases p with
    | outside =>
      obtain rfl := Option.some.inj h
      exact List.forall_mem_nil _
    | word w =>
      obtain rfl := Option.some.inj h
      exact List.forall_mem_singleton.2 hp
    | literal s | escaped s => cases h
  | cons c s ih =>
    rw [lex_cons] at h
    obtain ⟨⟨ts, q⟩, hstep, h⟩ := Option.bind_eq_some_iff.1 h
    obtain ⟨rest, hrest, rfl⟩ := Option.map_eq_some_iff.1 h
    obtain ⟨hts, hq⟩ := worded_step hp hstep
    exact List.forall_mem_append.2 ⟨hts, ih hq hrest⟩

/-- A term without a literal is worded if its value is. -/
theorem worded_bareTerm (name : String) {v : List Char} (h : ∀ c ∈ v, isWordLetter c) :
    (bareTerm name v).Worded := by
  unfold bareTerm
  split
  · next bound =>
    refine .atMost name ?_
    rw [String.toList_ofList]
    exact fun c hc => h c (List.mem_cons_of_mem _ (List.mem_cons_of_mem _ hc))
  · split
    · next bound hrev =>
      refine .atLeast name fun c hc => h c ?_
      rw [String.toList_ofList, List.mem_reverse] at hc
      rw [← List.mem_reverse, hrev]
      exact List.mem_cons_of_mem _ (List.mem_cons_of_mem _ hc)
    · refine .bare name ?_
      rwa [String.toList_ofList]

/-- The letters of the value of a term are letters of the term. -/
private theorem mem_of_splitTerm? {w v : List Char} {name : String}
    (h : splitTerm? w = some (name, v)) {c : Char} (hc : c ∈ v) : c ∈ w := by
  unfold splitTerm? at h
  split at h
  · next hdrop =>
    obtain ⟨rfl, rfl⟩ := Prod.mk.inj (Option.some.inj h)
    have hsuffix := List.dropWhile_suffix (l := w) (· != ':')
    rw [hdrop] at hsuffix
    exact hsuffix.mem (List.mem_cons_of_mem _ hc)
  · cases h

private theorem worded_node? {o : Operator} {ts : List Tree} {t : Tree}
    (hts : ∀ t ∈ ts, t.Worded) (h : o.node? ts = some t) : t.Worded := by
  unfold Operator.node? at h
  split at h
  · exact Option.some.inj h ▸ .all hts
  · exact Option.some.inj h ▸ .any hts
  · exact Option.some.inj h ▸ .negation (List.forall_mem_singleton.1 hts)
  · cases h

namespace Reader

variable {r r' : Reader} {token : Token} {t : Tree}

theorem Worded.push (hr : r.Worded) (ht : t.Worded) : (r.push t).Worded :=
  ⟨List.forall_mem_append.2 ⟨hr.trees, List.forall_mem_singleton.2 ht⟩, hr.stack⟩

/-- One more token adds nothing but words. -/
theorem Worded.next? (hr : r.Worded) (htoken : token.Worded) (h : r.next? token = some r') :
    r'.Worded := by
  unfold Reader.next? at h
  split at h
  · exact Option.some.inj h ▸ ⟨hr.trees, hr.stack⟩
  · split at h
    · exact Option.some.inj h ▸ ⟨hr.trees, hr.stack⟩
    · obtain ⟨o, -, rfl⟩ := Option.map_eq_some_iff.1 h
      exact ⟨List.forall_mem_nil _, List.forall_mem_cons.2 ⟨hr.trees, hr.stack⟩⟩
  · exact Option.some.inj h ▸ ⟨hr.trees, hr.stack⟩
  · next name s _ =>
    have hpush := hr.push (.quoted name (String.ofList s))
    exact Option.some.inj h ▸ ⟨hpush.trees, hpush.stack⟩
  · exact Option.some.inj h ▸ ⟨hr.trees, hr.stack⟩
  · obtain ⟨⟨name, value⟩, hsplit, heq⟩ := Option.map_eq_some_iff.1 h
    dsimp only at heq
    split at heq
    · exact heq ▸ ⟨hr.trees, hr.stack⟩
    · exact heq ▸ hr.push (worded_bareTerm name fun c hc => htoken c (mem_of_splitTerm? hsplit hc))
  · next name s _ =>
    exact Option.some.inj h ▸ hr.push (.quoted name (String.ofList s))
  · split at h
    · next o before stack hstack =>
      obtain ⟨t, ht, rfl⟩ := Option.map_eq_some_iff.1 h
      obtain ⟨hbefore, hrest⟩ := List.forall_mem_cons.1 (hstack ▸ hr.stack)
      exact Worded.push ⟨hbefore, hrest⟩ (worded_node? hr.trees ht)
    · cases h
  · cases h

theorem Worded.foldlM {tokens : List Token} (hr : r.Worded) (htokens : ∀ t ∈ tokens, t.Worded)
    (h : tokens.foldlM Reader.next? r = some r') : r'.Worded := by
  induction tokens generalizing r with
  | nil => exact Option.some.inj h ▸ hr
  | cons token tokens ih =>
    obtain ⟨htoken, htokens⟩ := List.forall_mem_cons.1 htokens
    rw [List.foldlM_cons] at h
    obtain ⟨next, hnext, h⟩ := Option.bind_eq_some_iff.1 h
    exact ih (hr.next? htoken hnext) htokens h

end Reader

/-- Whatever a text denotes, what is not quoted in it consists of word letters. -/
theorem worded_of_parse {s : String} {t : Tree} (h : parse s = some t) : t.Worded := by
  unfold parse at h
  obtain ⟨tokens, hlex, h⟩ := Option.bind_eq_some_iff.1 h
  obtain ⟨reader, hreader, h⟩ := Option.bind_eq_some_iff.1 h
  have hinitial : Reader.initial.Worded := ⟨List.forall_mem_nil _, List.forall_mem_nil _⟩
  have houtside : Place.outside.Worded := trivial
  have hworded := hinitial.foldlM (worded_of_lex houtside hlex) hreader
  unfold Reader.tree? at h
  split at h
  · exact Option.some.inj h ▸ hworded.trees _ List.mem_cons_self
  · cases h

/-! ## Constraints -/

variable {r : Registry} {c : Constraint} {d : Descriptor} {type : ValueType}
  {cmp : Comparison} {field physical value s : String}

theorem letters_of_worded_leaf (htype : type ≠ .text) (h : (leaf cmp type value physical).Worded) :
    ∀ c ∈ value.toList, isWordLetter c := by
  cases cmp <;> simp only [leaf, htype, ↓reduceIte] at h
  case notEquals | notLike =>
    cases h with
    | negation h => cases h with | bare _ h => exact h
  all_goals
    cases h
    assumption

theorem oneOf_inj {ts us : List Tree} (hlength : ts.length = us.length)
    (h : oneOf ts = oneOf us) : ts = us := by
  match ts, us with
  | [], [] => rfl
  | [t], [u] => exact congrArg ([·]) h
  | _ :: _ :: _, _ :: _ :: _ => exact Tree.any.inj h

theorem worded_of_oneOf {ts : List Tree} (h : (oneOf ts).Worded) : ∀ t ∈ ts, t.Worded := by
  match ts with
  | [] => exact List.forall_mem_nil _
  | [t] => exact List.forall_mem_singleton.2 h
  | t :: u :: ts =>
    cases h with
    | any h => exact h

/-- An expression on numbers or dates is read as the tree of its constraint exactly if the
value stands for itself. -/
theorem reads_expression_iff (hd : r.find? field = some d) (htype : d.type ≠ .text)
    (hnames : ∀ name ∈ d.physical, ∀ ch ∈ name.toList, isWordLetter ch ∧ ch ≠ ':')
    (hvalue : prepare field c.value d.type = .ok value) (hne : value.toList ≠ [])
    (h : expression (some r) field c = .ok s) :
    Reads s (oneOf (d.physical.map (leaf c.comparison d.type value))) ↔
      Standalone c.comparison value.toList := by
  have hbare (hletters : ∀ ch ∈ value.toList, isWordLetter ch) :
      Reads s (oneOf (d.physical.map (bareLeaf c.comparison value.toList))) :=
    reads_expression hd hvalue
      (fun name hname part hpart => reads_bareLeaf (hnames name hname) hne hletters htype hpart) h
  constructor
  · intro hreads
    have hparse := parse_of_reads hreads
    obtain ⟨name, hname⟩ := List.exists_mem_of_ne_nil _ d.nonempty
    have hletters := letters_of_worded_leaf htype
      (worded_of_oneOf (worded_of_parse hparse) _ (List.mem_map_of_mem hname))
    have hsame := Option.some.inj ((parse_of_reads (hbare hletters)).symm.trans hparse)
    have hleaves := oneOf_inj (by simp) hsame
    exact ⟨hletters, (bareLeaf_eq_leaf_iff htype).1 (List.map_inj_left.1 hleaves name hname)⟩
  · intro hvalue
    have hleaves : d.physical.map (leaf c.comparison d.type value) =
        d.physical.map (bareLeaf c.comparison value.toList) :=
      List.map_congr_left fun name _ => ((bareLeaf_eq_leaf_iff htype).2 hvalue.undotted).symm
    rw [hleaves]
    exact hbare hvalue.letters

/-- On a field of numbers or dates only the value can be without an expression. -/
theorem exists_expression (hd : r.find? field = some d) (htype : d.type ≠ .text)
    (hvalue : prepare field c.value d.type = .ok value) :
    ∃ s, expression (some r) field c = .ok s := by
  obtain ⟨parts, hparts⟩ := exists_mapM_eq_ok_iff.2 fun name (_ : name ∈ d.physical) =>
    (⟨_, fieldExpression_bare htype⟩ :
      ∃ part, fieldExpression field name c.comparison d.type value = .ok part)
  unfold expression
  rw [descriptor_eq_ok_iff.2 hd, ok_bind, hvalue, ok_bind, hparts, ok_bind]
  split
  · exact ⟨_, rfl⟩
  · exact ⟨_, rfl⟩

/-- There is always something in the text of a value. -/
theorem toList_prepareText_ne_nil (v : Value) : (prepareText v).toList ≠ [] := by
  have htext (s : String) :
      (if Text.isBlankText s.toList then "0" else s).toList ≠ [] := by
    split
    · decide
    · next hblank =>
      intro hnil
      rw [hnil] at hblank
      exact hblank rfl
  cases v with
  | null => decide
  | bool b => cases b <;> decide
  | _ => exact htext _

/-- A value for a field of numbers goes into the query as it is. -/
theorem prepare_numeric {v : Value} (h : v.isWritable) :
    prepare field v .numeric = .ok (prepareText v) := by
  have hreduced : reduced field v .numeric = .ok v := rfl
  unfold prepare
  rw [hreduced, ok_bind, if_pos h]
  rfl

/-- The expression of a constraint is read as its tree if the value for a field of numbers
stands for itself. -/
theorem readable_of_standalone
    (hnames : ∀ d, r.find? field = some d →
      ∀ name ∈ d.physical, ∀ ch ∈ name.toList, isWordLetter ch ∧ ch ≠ ':')
    (hvalue : ∀ d, r.find? field = some d → d.type = .numeric →
      Standalone c.comparison (prepareText c.value).toList)
    (htext : ∀ d, r.find? field = some d → d.type = .text → "" ∉ d.physical) :
    Readable r field c := by
  intro s h
  obtain ⟨d, hd, h'⟩ := exists_of_bind_eq_ok h
  obtain ⟨value, hprepare, -⟩ := exists_of_bind_eq_ok h'
  have hfind := descriptor_eq_ok_iff.1 hd
  by_cases htype : d.type = .text
  · refine Expressible.readable ?_ s h
    intro d' hd'
    obtain rfl := Option.some.inj (hd'.symm.trans hfind)
    refine ⟨fun name hname => ⟨?_, hnames d' hd' name hname⟩, fun hnumeric => ?_⟩
    · rintro rfl
      exact htext d' hd' htype hname
    · cases htype.symm.trans hnumeric
  · have hstandalone : Standalone c.comparison value.toList ∧ value.toList ≠ [] := by
      cases hcase : d.type with
      | text => exact absurd hcase htype
      | numeric =>
        obtain ⟨v, hv, -, rfl⟩ := prepare_eq_ok (hcase ▸ hprepare)
        obtain rfl := Except.ok.inj hv
        exact ⟨hvalue d hfind hcase, toList_prepareText_ne_nil c.value⟩
      | date =>
        have hbare := (isPlainDecimal_prepare_date (hcase ▸ hprepare)).isBare
        exact ⟨hbare.standalone, hbare.ne_nil⟩
    refine ⟨_, subtree_eq_ok hfind hprepare, ?_⟩
    exact (reads_expression_iff hfind htype (hnames d hfind) hprepare hstandalone.2 h).2
      hstandalone.1

/-! ## Filters that are read -/

/-- What a constraint compares with in a filter that is read has a text. -/
theorem isWritable_of_mem_constraints_ofQuery {query : String} {group : Int}
    (h : c ∈ (Filter.ofQuery r query).constraints field group) : c.value.isWritable := by
  obtain ⟨t, -, -, rfl⟩ := Filter.exists_of_mem_constraints_ofQuery h
  unfold Filter.termConstraint
  cases t.value <;> rfl

/-- A constraint on numbers in a filter that is read always has an expression. It is read as
the tree of the constraint exactly if the value stands for itself; if the values of all such
constraints do, the query of the filter is read as the tree of the filter. -/
theorem reads_numeric_ofQuery
    (hnames : ∀ field d, r.find? field = some d →
      ∀ name ∈ d.physical, ∀ ch ∈ name.toList, isWordLetter ch ∧ ch ≠ ':')
    (query : String) :
    (∀ group field d, r.find? field = some d → d.type = .numeric →
      ∀ c ∈ (Filter.ofQuery r query).constraints field group,
        ∃ s t, expression (some r) field c = .ok s ∧ subtree r field c = .ok t ∧
          (Reads s t ↔ Standalone c.comparison (prepareText c.value).toList)) ∧
    ((∀ field d, r.find? field = some d → d.type = .text → "" ∉ d.physical) →
      (∀ group field d, r.find? field = some d → d.type = .numeric →
        ∀ c ∈ (Filter.ofQuery r query).constraints field group,
          Standalone c.comparison (prepareText c.value).toList) →
      ∀ text, ofFilter none (Filter.ofQuery r query) = .ok (some text) →
        ∃ t, filterTree r (Filter.ofQuery r query).groups = .ok t ∧ parse text = some t) := by
  constructor
  · intro group field d hd htype c hc
    have hne : d.type ≠ .text := by
      rw [htype]
      exact nofun
    have hvalue : prepare field c.value d.type = .ok (prepareText c.value) := by
      rw [htype]
      exact prepare_numeric (isWritable_of_mem_constraints_ofQuery hc)
    obtain ⟨s, hs⟩ := exists_expression hd hne hvalue
    exact ⟨s, _, hs, subtree_eq_ok hd hvalue,
      reads_expression_iff hd hne (hnames field d hd) hvalue (toList_prepareText_ne_nil c.value) hs⟩
  · intro htext hvalues text h
    have hregistry : (Filter.ofQuery r query).registry = r := Filter.registry_ofQuery r query
    have hreadable : ∀ group field, ∀ c ∈ (Filter.ofQuery r query).constraints field group,
        Readable (none.getD (Filter.ofQuery r query).registry) field c := by
      intro group field c hc
      rw [Option.getD_none, hregistry]
      exact readable_of_standalone (hnames field)
        (fun d hd htype => hvalues group field d hd htype c hc) (htext field)
    obtain ⟨-, hparse⟩ :=
      parse_ofFilter_of_readable (Filter.wellFormed_ofQuery r query) hreadable h
    rw [Option.getD_none, hregistry] at hparse
    exact hparse text rfl

open FieldedSearch.Filter (ages ofQuery)

/-- A bound from a search string is one operand of the query. -/
theorem reads_numeric_ofQuery_ages :
    (∀ field d, ages.find? field = some d →
      ∀ name ∈ d.physical, ∀ ch ∈ name.toList, isWordLetter ch ∧ ch ≠ ':') ∧
    ofFilter none (ofQuery ages "age>3") = .ok (some "(and age:3..)") ∧
    parse "(and age:3..)" = some (.all [.atLeast "age" "3"]) := by
  have hfind : ∀ field d, ages.find? field = some d → d = ⟨["age"], .numeric, by decide⟩ := by
    intro field d hd
    exact (Prod.mk.inj (List.mem_singleton.1 (Entries.mem_of_lookup hd))).2
  have hnames : ∀ field d, ages.find? field = some d →
      ∀ name ∈ d.physical, ∀ ch ∈ name.toList, isWordLetter ch ∧ ch ≠ ':' := by
    intro field d hd
    obtain rfl := hfind field d hd
    have hletters : ("age".toList.all fun ch => isWordLetter ch && ch != ':') = true := by decide
    simpa using hletters
  have htext : ∀ field d, ages.find? field = some d → d.type = .text → "" ∉ d.physical := by
    intro field d hd
    obtain rfl := hfind field d hd
    exact nofun
  have hgroups : (ofQuery ages "age>3").groups =
      [(0, [("age", [⟨.text "3", .greater, false⟩])])] := by decide +kernel
  have hvalues : ∀ group field, ∀ c ∈ (ofQuery ages "age>3").constraints field group,
      Standalone c.comparison (prepareText c.value).toList := by
    refine (Filter.forall_constraints_iff (P := fun _ _ c =>
      Standalone c.comparison (prepareText c.value).toList)
      (Filter.wellFormed_ofQuery ages "age>3").toKeyed).2 ?_
    rw [hgroups]
    simp only [List.forall_mem_singleton]
    decide
  have hquery : ofFilter none (ofQuery ages "age>3") = .ok (some "(and age:3..)") :=
    eq_ok_of_toOption (by decide +kernel)
  obtain ⟨-, hparse⟩ := reads_numeric_ofQuery hnames "age>3"
  obtain ⟨t, ht, hparse⟩ := hparse htext (fun group field _ _ _ => hvalues group field) _ hquery
  have htree : filterTree ages (ofQuery ages "age>3").groups = .ok (.all [.atLeast "age" "3"]) := by
    rw [hgroups]
    rfl
  exact ⟨hnames, hquery, hparse.trans (congrArg some (Except.ok.inj (ht.symm.trans htree)))⟩

/-- A value with a blank in it becomes two operands of the query. -/
theorem parse_ofQuery_smuggled :
    (ofQuery ages "age:[1 b:2]").constraints "age" 0 = [⟨.text "1 b:2", .equals, false⟩] ∧
    ofFilter none (ofQuery ages "age:[1 b:2]") = .ok (some "(and age:1 b:2)") ∧
    parse "(and age:1 b:2)" = some (.all [.equal "age" (.bare "1"), .equal "b" (.bare "2")]) := by
  have hlex : lex .outside "(and age:1 b:2)".toList = some [.opening, .word "and".toList,
      .word "age:1".toList, .word "b:2".toList, .closing] := by
    decide +kernel
  refine ⟨by decide +kernel, eq_ok_of_toOption (by decide +kernel), ?_⟩
  unfold parse
  rw [hlex]
  rfl

end FieldedSearch.BooleanQuery
