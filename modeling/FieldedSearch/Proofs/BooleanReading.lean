-- SUMMARY: The boolean query of a filter is read back as the tree of its constraints.
import FieldedSearch.Proofs.BooleanSyntax
import FieldedSearch.Proofs.Changes
import FieldedSearch.Proofs.Numerals
import FieldedSearch.Proofs.Translating

/-!
# Reading the boolean query of a filter

The tree of a filter is stated by its constraints: group 0 with one subtree for each, every
further group with one `any` of its subtrees, all joined by `all`. `parse_ofFilter` says
that this is the tree which the query of the filter denotes, if the index fields have
names and the numbers have texts that can stand in a term.
-/

namespace FieldedSearch.BooleanQuery

open Query (StopsAt stopsAt_nil stopsAt_cons takeWhile_append_stop dropWhile_append_stop)

/-! ## Names and numbers -/

/-- The names of index fields that can stand in a term. -/
def IsPhysicalName (name : String) : Prop :=
  name ≠ "" ∧ ∀ c ∈ name.toList, isWordLetter c ∧ c ≠ ':'

instance (name : String) : Decidable (IsPhysicalName name) :=
  decidable_of_iff (name ≠ "" ∧ name.toList.all fun c => isWordLetter c && c != ':')
    (by simp [IsPhysicalName])

/-- A number in decimal digits, with or without a sign in front and a fraction behind. -/
def IsPlainDecimal (s : List Char) : Prop :=
  ∃ sign whole fraction, s = sign ++ whole ++ fraction ∧
    sign ∈ [[], ['-'], ['+']] ∧
    (whole ≠ [] ∧ ∀ c ∈ whole, Text.isAsciiDigit c) ∧
    (fraction = [] ∨ ∃ digits, fraction = '.' :: digits ∧ digits ≠ [] ∧
      ∀ c ∈ digits, Text.isAsciiDigit c)

private theorem isWordLetter_of_isAsciiDigit {c : Char} (h : Text.isAsciiDigit c) :
    isWordLetter c ∧ c ≠ '.' := by
  have hn := Text.toNat_of_isAsciiDigit h
  have hne {d : Char} (hd : d.toNat < 48) : c ≠ d := by
    rintro rfl
    omega
  have hblank := Text.isBlank_of_isAsciiDigit h
  refine ⟨?_, hne (by decide)⟩
  have h₁ : c ≠ '(' := hne (by decide)
  have h₂ : c ≠ ')' := hne (by decide)
  have h₃ : c ≠ '\'' := hne (by decide)
  have h₄ : c ≠ '"' := hne (by decide)
  simp [isWordLetter, hblank, h₁, h₂, h₃, h₄]

/-- What stands in a term as a value of its own: word letters, with no dot at either end. -/
structure IsBare (s : List Char) : Prop where
  letters : ∀ c ∈ s, isWordLetter c
  head : s.head? ≠ some '.'
  last : s.getLast? ≠ some '.'
  ne_nil : s ≠ []

private theorem dot_not_mem {ds : List Char} (h : ∀ c ∈ ds, Text.isAsciiDigit c) : '.' ∉ ds :=
  fun hm => (isWordLetter_of_isAsciiDigit (h _ hm)).2 rfl

theorem IsPlainDecimal.isBare {s : List Char} (h : IsPlainDecimal s) : IsBare s := by
  obtain ⟨sign, whole, fraction, rfl, hsign, ⟨hne, hwhole⟩, hfraction⟩ := h
  have hsign : sign = [] ∨ sign = ['-'] ∨ sign = ['+'] := by simpa using hsign
  have hletters : ∀ ds : List Char, (∀ c ∈ ds, Text.isAsciiDigit c) → ∀ c ∈ ds, isWordLetter c :=
    fun ds hds c hc => (isWordLetter_of_isAsciiDigit (hds c hc)).1
  constructor
  case letters =>
    rw [List.append_assoc, List.forall_mem_append, List.forall_mem_append]
    refine ⟨?_, hletters whole hwhole, ?_⟩
    · rcases hsign with rfl | rfl | rfl <;> simp [isWordLetter, Text.isBlank]
    · rcases hfraction with rfl | ⟨ds, rfl, -, hds⟩
      · exact fun _ hc => absurd hc List.not_mem_nil
      · exact List.forall_mem_cons.2 ⟨rfl, hletters ds hds⟩
  case head =>
    rcases hsign with rfl | rfl | rfl
    · obtain ⟨d, ds, rfl⟩ := List.exists_cons_of_ne_nil hne
      intro hhead
      obtain rfl : d = '.' := Option.some.inj hhead
      exact dot_not_mem hwhole List.mem_cons_self
    · exact fun h => absurd (Option.some.inj h) (by decide)
    · exact fun h => absurd (Option.some.inj h) (by decide)
  case last =>
    intro hlast
    rcases hfraction with rfl | ⟨ds, rfl, hds, hdigits⟩
    · rw [List.append_nil, List.getLast?_append_of_ne_nil _ hne] at hlast
      exact dot_not_mem hwhole (List.mem_of_getLast? hlast)
    · rw [List.getLast?_append_of_ne_nil _ (List.cons_ne_nil _ _), ← List.singleton_append,
        List.getLast?_append_of_ne_nil _ hds] at hlast
      exact dot_not_mem hdigits (List.mem_of_getLast? hlast)
  case ne_nil => simp [hne]

/-! ## Whole numbers -/

theorem isPlainDecimal_decimalInt (n : Int) : IsPlainDecimal (Text.decimalInt n) := by
  cases n with
  | ofNat n =>
    exact ⟨[], Text.decimal n, [], by simp [Text.decimalInt], by simp,
      Text.isAsciiDigit_decimal n, .inl rfl⟩
  | negSucc n =>
    exact ⟨['-'], Text.decimal (n + 1), [], by simp [Text.decimalInt], by simp,
      Text.isAsciiDigit_decimal (n + 1), .inl rfl⟩

/-- A date is prepared as a whole number. -/
theorem isPlainDecimal_prepare_date {field value : String} {v : Value}
    (h : prepare field v .date = .ok value) : IsPlainDecimal value.toList := by
  have hzero : IsPlainDecimal "0".toList := by
    have hdecimal : "0".toList = Text.decimalInt 0 := by decide +kernel
    rw [hdecimal]
    exact isPlainDecimal_decimalInt 0
  have htext : ∀ t : Option Int, IsPlainDecimal (prepareText (t.elim .null .int)).toList := by
    intro t
    cases t with
    | none => exact hzero
    | some n =>
      change IsPlainDecimal (if _ then "0" else String.ofList (Text.decimalInt n)).toList
      split
      · exact hzero
      · rw [String.toList_ofList]
        exact isPlainDecimal_decimalInt n
  obtain ⟨v', hv', -, rfl⟩ := prepare_eq_ok h
  cases ht : timestamp field v with
  | error e => rw [reduced, ht] at hv'; contradiction
  | ok t =>
    rw [reduced, ht] at hv'
    rw [← Except.ok.inj hv']
    exact htext t

/-! ## Terms -/

/-- What stands behind the colon of a term. -/
def operand (cmp : Comparison) (v : List Char) : List Char :=
  match cmp with
  | .greater | .greaterOrEqual => v ++ ['.', '.']
  | .less | .lessOrEqual => '.' :: '.' :: v
  | _ => v

/-- The dots at the ends of a value are not taken for those of another bound. -/
def Undotted (cmp : Comparison) (v : List Char) : Prop :=
  match cmp with
  | .greater | .greaterOrEqual => ¬['.', '.'] <+: v ++ ['.', '.']
  | .less | .lessOrEqual => True
  | _ => ¬['.', '.'] <+: v ∧ ¬['.', '.'] <:+ v

/-- A value stands for itself in a term. -/
structure Standalone (cmp : Comparison) (v : List Char) : Prop where
  letters : ∀ c ∈ v, isWordLetter c
  undotted : Undotted cmp v

instance (cmp : Comparison) (v : List Char) : Decidable (Undotted cmp v) :=
  match cmp with
  | .greater | .greaterOrEqual => inferInstanceAs (Decidable (¬['.', '.'] <+: v ++ ['.', '.']))
  | .less | .lessOrEqual => inferInstanceAs (Decidable True)
  | .equals | .notEquals | .like | .notLike =>
    inferInstanceAs (Decidable (¬['.', '.'] <+: v ∧ ¬['.', '.'] <:+ v))

instance (cmp : Comparison) (v : List Char) : Decidable (Standalone cmp v) :=
  decidable_of_iff (v.all isWordLetter ∧ Undotted cmp v)
    ⟨fun h => ⟨List.all_eq_true.1 h.1, h.2⟩,
      fun h => ⟨List.all_eq_true.2 h.letters, h.undotted⟩⟩

variable {physical field value s : String} {v : List Char} {cmp : Comparison} {type : ValueType}

private theorem operand_ne_nil (hne : v ≠ []) : operand cmp v ≠ [] := by
  cases cmp <;> simp [operand, hne]

private theorem forall_mem_operand (h : ∀ c ∈ v, isWordLetter c) :
    ∀ c ∈ operand cmp v, isWordLetter c := by
  have hdots : ∀ c ∈ ['.', '.'], isWordLetter c := List.all_eq_true.1 (by decide)
  cases cmp
  case greater | greaterOrEqual => exact List.forall_mem_append.2 ⟨h, hdots⟩
  case less | lessOrEqual => exact List.forall_mem_append.2 ⟨hdots, h⟩
  all_goals exact h

theorem IsBare.standalone (h : IsBare v) : Standalone cmp v := by
  have hhead (w : List Char) : ¬['.', '.'] <+: v ++ w := by
    rintro ⟨bound, hbound⟩
    obtain ⟨c, v, rfl⟩ := List.exists_cons_of_ne_nil h.ne_nil
    exact h.head (congrArg some (List.cons.inj hbound).1.symm)
  have hlast : ¬['.', '.'] <:+ v := by
    rintro ⟨bound, rfl⟩
    exact h.last (by simp)
  refine ⟨h.letters, ?_⟩
  cases cmp
  case greater | greaterOrEqual => exact hhead ['.', '.']
  case less | lessOrEqual => trivial
  all_goals exact ⟨fun hprefix => hhead [] (by rwa [List.append_nil]), hlast⟩

theorem bareTerm_atMost (name : String) (v : List Char) :
    bareTerm name ('.' :: '.' :: v) = .atMost name (String.ofList v) := rfl

theorem bareTerm_undotted (name : String) (hhead : ¬['.', '.'] <+: v) (hlast : ¬['.', '.'] <:+ v) :
    bareTerm name v = .equal name (.bare (String.ofList v)) := by
  unfold bareTerm
  split
  · next bound => exact absurd ⟨bound, rfl⟩ hhead
  · split
    · next bound hrev =>
      refine absurd ⟨bound.reverse, ?_⟩ hlast
      rw [← List.reverse_inj, hrev]
      simp
    · rfl

theorem bareTerm_append_dots (name : String) (h : ¬['.', '.'] <+: v ++ ['.', '.']) :
    bareTerm name (v ++ ['.', '.']) = .atLeast name (String.ofList v) := by
  have hrev : (v ++ ['.', '.']).reverse = '.' :: '.' :: v.reverse := by simp
  unfold bareTerm
  split
  · next bound heq => exact absurd ⟨bound, heq.symm⟩ h
  · rw [hrev]
    simp only [List.reverse_reverse]

/-- Dots in front of a value always make it an upper bound. -/
theorem bareTerm_of_prefix (name : String) (h : ['.', '.'] <+: v) :
    ∃ bound, bareTerm name v = .atMost name bound := by
  obtain ⟨bound, rfl⟩ := h
  exact ⟨String.ofList bound, rfl⟩

/-- Dots behind a value make it a bound. -/
theorem bareTerm_of_suffix (name : String) (h : ['.', '.'] <:+ v) :
    ∃ bound, bareTerm name v = .atMost name bound ∨ bareTerm name v = .atLeast name bound := by
  obtain ⟨bound, rfl⟩ := h
  by_cases hhead : ['.', '.'] <+: bound ++ ['.', '.']
  · obtain ⟨bound, h⟩ := bareTerm_of_prefix name hhead
    exact ⟨bound, .inl h⟩
  · exact ⟨_, .inr (bareTerm_append_dots name hhead)⟩

theorem splitTerm?_append (h : ∀ c ∈ physical.toList, isWordLetter c ∧ c ≠ ':') (v : List Char) :
    splitTerm? (physical.toList ++ ':' :: v) = some (physical, v) := by
  have hname : ∀ c ∈ physical.toList, (c != ':') = true := fun c hc => by
    simpa using (h c hc).2
  have hstop : StopsAt (· != ':') (':' :: v) := stopsAt_cons.2 rfl
  unfold splitTerm?
  rw [dropWhile_append_stop hname hstop, takeWhile_append_stop hname hstop, String.ofList_toList]

/-- A field with a value behind the colon is read as a term. -/
theorem reads_bareTerm (h : ∀ c ∈ physical.toList, isWordLetter c ∧ c ≠ ':') {v : List Char}
    (hne : v ≠ []) (hv : ∀ c ∈ v, isWordLetter c) :
    Reads (physical ++ ":" ++ String.ofList v) (bareTerm physical v) := by
  have htext : (physical ++ ":" ++ String.ofList v).toList = physical.toList ++ ':' :: v := by
    have hcolon : ":".toList = [':'] := rfl
    rw [String.toList_append, String.toList_append, hcolon, String.toList_ofList,
      List.append_assoc]
    rfl
  refine ⟨[.word (physical.toList ++ ':' :: v)], ?_, adds_bareTerm (splitTerm?_append h v) hne⟩
  rw [htext]
  apply lexes_word
  · simp
  · rw [List.forall_mem_append, List.forall_mem_cons]
    exact ⟨fun c hc => (h c hc).1, rfl, hv⟩

/-- A field with a literal behind the colon is read as a term. -/
theorem reads_literalTerm (h : IsPhysicalName physical) (value : String) :
    Reads (physical ++ ":" ++ literal value) (.equal physical (.quoted value)) := by
  have hadds := adds_literalTerm (splitTerm?_append h.2 []) value.toList
  rw [String.ofList_toList] at hadds
  refine ⟨[.word (physical.toList ++ [':']), .literal value.toList], ?_, hadds⟩
  have hword : Lexes (physical.toList ++ [':']) [.word (physical.toList ++ [':'])] := by
    apply lexes_word
    · simp
    · rw [List.forall_mem_append, List.forall_mem_singleton]
      exact ⟨fun c hc => (h.2 c hc).1, rfl⟩
  rw [String.toList_append, String.toList_append]
  refine hword.append (lexes_literal value) fun u _ => ?_
  rw [toList_literal]
  exact stopsAt_cons.2 rfl

/-- A field and a literal behind the word for them are read as a term. -/
theorem reads_field (h : IsPhysicalName physical) (value : String) :
    Reads ("(field " ++ physical ++ " " ++ literal value ++ ")")
      (.equal physical (.quoted value)) := by
  have hadds := adds_field physical.toList value.toList
  rw [String.ofList_toList, String.ofList_toList] at hadds
  refine ⟨_, ?_, hadds⟩
  have hfield : Lexes fieldWord [.word fieldWord] :=
    lexes_word (by decide) (List.all_eq_true.1 (by decide))
  have hname : Lexes physical.toList [.word physical.toList] :=
    lexes_word (fun hnil => h.1 (String.toList_eq_nil_iff.1 hnil)) fun c hc => (h.2 c hc).1
  have hvalue := (lexes_literal value).append lexes_closing fun u _ => stopsAt_cons.2 rfl
  have hrest := hname.append hvalue.blank fun u _ => stopsAt_cons.2 rfl
  have hall := (hfield.append hrest.blank fun u _ => stopsAt_cons.2 rfl).opening
  have htext : ("(field " ++ physical ++ " " ++ literal value ++ ")").toList =
      '(' :: (fieldWord ++
        ' ' :: (physical.toList ++ ' ' :: ((literal value).toList ++ [')']))) := by
    have hopen : "(field ".toList = '(' :: (fieldWord ++ [' ']) := rfl
    have hspace : " ".toList = [' '] := rfl
    have hclose : ")".toList = [')'] := rfl
    simp only [String.toList_append, hopen, hspace, hclose, List.append_assoc, List.cons_append,
      List.nil_append]
  rw [htext]
  exact hall

/-! ## Constraints -/

/-- The leaf that compares an index field with a prepared value. -/
def leaf (c : Comparison) (type : ValueType) (value physical : String) : Tree :=
  let operand := if type = .text then Operand.quoted value else .bare value
  match c with
  | .equals | .like => .equal physical operand
  | .notEquals | .notLike => .negation (.equal physical operand)
  | .greater | .greaterOrEqual => .atLeast physical value
  | .less | .lessOrEqual => .atMost physical value

/-- The tree that a term is read as, negated if the comparison is. -/
def bareLeaf (cmp : Comparison) (v : List Char) (physical : String) : Tree :=
  if cmp.isNegated then .negation (bareTerm physical (operand cmp v))
  else bareTerm physical (operand cmp v)

theorem reads_not {operand : String} {t : Tree} (h : Reads operand t) :
    Reads ("(not " ++ operand ++ ")") (.negation t) := by
  have hjoin : Reads (join Operator.not.word [operand]) (.negation t) :=
    reads_join (.cons h .nil) rfl
  have hopen : "(" ++ Operator.not.word ++ " " = "(not " := by decide
  rwa [join, hopen, String.intercalate_singleton] at hjoin

/-- A term is read as the comparison that it is for exactly if no dots are in the way. -/
theorem bareLeaf_eq_leaf_iff (htype : type ≠ .text) :
    bareLeaf cmp value.toList physical = leaf cmp type value physical ↔
      Undotted cmp value.toList := by
  have hequal : bareTerm physical value.toList = .equal physical (.bare value) ↔
      ¬['.', '.'] <+: value.toList ∧ ¬['.', '.'] <:+ value.toList := by
    constructor
    · intro h
      refine ⟨fun hhead => ?_, fun hlast => ?_⟩
      · obtain ⟨bound, hbound⟩ := bareTerm_of_prefix physical hhead
        cases h.symm.trans hbound
      · obtain ⟨bound, hbound | hbound⟩ := bareTerm_of_suffix physical hlast
        · cases h.symm.trans hbound
        · cases h.symm.trans hbound
    · rintro ⟨hhead, hlast⟩
      rw [bareTerm_undotted physical hhead hlast, String.ofList_toList]
  have hatLeast : bareTerm physical (value.toList ++ ['.', '.']) = .atLeast physical value ↔
      ¬['.', '.'] <+: value.toList ++ ['.', '.'] := by
    constructor
    · intro h hhead
      obtain ⟨bound, hbound⟩ := bareTerm_of_prefix physical hhead
      cases h.symm.trans hbound
    · intro h
      rw [bareTerm_append_dots physical h, String.ofList_toList]
  have hatMost : bareTerm physical ('.' :: '.' :: value.toList) = .atMost physical value := by
    rw [bareTerm_atMost, String.ofList_toList]
  cases cmp <;>
    simp only [bareLeaf, leaf, operand, Undotted, Comparison.isNegated, htype, ↓reduceIte,
      Bool.false_eq_true, Tree.negation.injEq, hequal, hatLeast, hatMost]

/-- The expression for an index field of numbers or dates is the term itself, behind a `not`
if the comparison is negated. -/
theorem fieldExpression_bare (htype : type ≠ .text) :
    fieldExpression field physical cmp type value = .ok (
      let term := physical ++ ":" ++ String.ofList (operand cmp value.toList)
      if cmp.isNegated then "(not " ++ term ++ ")" else term) := by
  cases cmp <;> simp [fieldExpression, htype, Comparison.isNegated, operand, ← String.toList_inj]

theorem reads_bareLeaf (hphysical : ∀ c ∈ physical.toList, isWordLetter c ∧ c ≠ ':')
    (hne : value.toList ≠ []) (hvalue : ∀ c ∈ value.toList, isWordLetter c) (htype : type ≠ .text)
    (h : fieldExpression field physical cmp type value = .ok s) :
    Reads s (bareLeaf cmp value.toList physical) := by
  have hletters : ∀ c ∈ operand cmp value.toList, isWordLetter c := forall_mem_operand hvalue
  have hterm := reads_bareTerm hphysical (operand_ne_nil hne) hletters
  obtain rfl := Except.ok.inj ((fieldExpression_bare htype).symm.trans h)
  unfold bareLeaf
  split
  · exact reads_not hterm
  · exact hterm

/-- The expression for an index field is read as its leaf. -/
theorem reads_fieldExpression (hname : IsPhysicalName physical)
    (hvalue : type ≠ .text → IsBare value.toList)
    (h : fieldExpression field physical cmp type value = .ok s) :
    Reads s (leaf cmp type value physical) := by
  by_cases htext : type = .text
  · subst htext
    have hnot := reads_not (reads_literalTerm hname value)
    rw [← String.append_assoc, ← String.append_assoc] at hnot
    cases cmp <;> simp only [fieldExpression, ↓reduceIte, reduceCtorEq, Except.ok.injEq] at h
    case equals | like => exact h ▸ reads_field hname value
    case notEquals | notLike => exact h ▸ hnot
  · have hvalue := hvalue htext
    rw [← (bareLeaf_eq_leaf_iff htext).2 hvalue.standalone.undotted]
    exact reads_bareLeaf hname.2 hvalue.ne_nil hvalue.letters htext h

/-- One tree stands for itself, any other number of trees for one of them. -/
def oneOf : List Tree → Tree
  | [t] => t
  | ts => .any ts

/-- The tree of a constraint: one of the leaves for the index fields of its field. -/
def subtree (r : Registry) (field : String) (c : Constraint) : Except Failure Tree := do
  let d ← descriptor (some r) field
  let value ← prepare field c.value d.type
  return oneOf (d.physical.map (leaf c.comparison d.type value))

/-- The expression of a constraint, if it has one, is read as its tree. -/
def Readable (r : Registry) (field : String) (c : Constraint) : Prop :=
  ∀ s, expression (some r) field c = .ok s → ∃ t, subtree r field c = .ok t ∧ Reads s t

/-- What a constraint may hold so that its terms are read again: the index fields of its
field have names, and the value for a field of numbers is a number. -/
def Expressible (r : Registry) (field : String) (c : Constraint) : Prop :=
  ∀ d, r.find? field = some d →
    (∀ name ∈ d.physical, IsPhysicalName name) ∧
      (d.type = .numeric → IsPlainDecimal (prepareText c.value).toList)

variable {r : Registry} {c : Constraint}

/-- What is prepared for a field of numbers or dates can stand in a term. -/
private theorem isBare_of_prepare {type : ValueType} (htype : type ≠ .text)
    (hnumeric : type = .numeric → IsPlainDecimal (prepareText c.value).toList)
    (h : prepare field c.value type = .ok value) : IsBare value.toList := by
  cases type with
  | text => contradiction
  | numeric =>
    obtain ⟨v, hv, -, rfl⟩ := prepare_eq_ok h
    obtain rfl := Except.ok.inj hv
    exact (hnumeric rfl).isBare
  | date => exact (isPlainDecimal_prepare_date h).isBare

/-- Parts that are joined only if there are several are read as one of their trees. -/
theorem reads_oneOf {parts : List String} {ts : List Tree} {s : String}
    (hs : (match parts with
      | [part] => return part
      | parts => return join "or" parts : Except Failure String) = .ok s)
    (h : List.Forall₂ Reads parts ts) : Reads s (oneOf ts) := by
  cases h with
  | nil =>
    obtain rfl := Except.ok.inj hs
    exact reads_join (o := .or) .nil rfl
  | cons hpart hrest =>
    cases hrest with
    | nil =>
      obtain rfl := Except.ok.inj hs
      exact hpart
    | cons hnext hrest =>
      obtain rfl := Except.ok.inj hs
      exact reads_join (o := .or) (.cons hpart (.cons hnext hrest)) rfl

variable {d : Descriptor}

/-- If the expression for each index field is read as a tree, that for the constraint is read
as one of these trees. -/
theorem reads_expression {tree : String → Tree} {s : String} (hd : r.find? field = some d)
    (hvalue : prepare field c.value d.type = .ok value)
    (hreads : ∀ name ∈ d.physical, ∀ part,
      fieldExpression field name c.comparison d.type value = .ok part → Reads part (tree name))
    (h : expression (some r) field c = .ok s) : Reads s (oneOf (d.physical.map tree)) := by
  unfold expression at h
  rw [descriptor_eq_ok_iff.2 hd, ok_bind, hvalue, ok_bind] at h
  obtain ⟨parts, hparts, h⟩ := exists_of_bind_eq_ok h
  have htrees : ∀ name ∈ d.physical, ∀ part,
      fieldExpression field name c.comparison d.type value = .ok part →
      ∃ t, (pure (tree name) : Except Failure Tree) = .ok t ∧ Reads part t :=
    fun name hname part hpart => ⟨_, rfl, hreads name hname part hpart⟩
  obtain ⟨ts, hts, hreads⟩ := exists_mapM_eq_ok htrees hparts
  rw [List.mapM_pure] at hts
  obtain rfl := Except.ok.inj hts
  exact reads_oneOf h hreads

theorem subtree_eq_ok (hd : r.find? field = some d)
    (hvalue : prepare field c.value d.type = .ok value) :
    subtree r field c = .ok (oneOf (d.physical.map (leaf c.comparison d.type value))) := by
  unfold subtree
  rw [descriptor_eq_ok_iff.2 hd, ok_bind, hvalue]
  rfl

/-- The expression for a constraint is read as its tree. -/
theorem Expressible.readable (hc : Expressible r field c) : Readable r field c := by
  intro s h
  obtain ⟨d, hd, h'⟩ := exists_of_bind_eq_ok h
  obtain ⟨value, hvalue, -⟩ := exists_of_bind_eq_ok h'
  have hfind := descriptor_eq_ok_iff.1 hd
  obtain ⟨hnames, hnumeric⟩ := hc d hfind
  have hbare (htype : d.type ≠ .text) : IsBare value.toList :=
    isBare_of_prepare htype hnumeric hvalue
  refine ⟨_, subtree_eq_ok hfind hvalue, reads_expression hfind hvalue ?_ h⟩
  exact fun name hname part hpart => reads_fieldExpression (hnames name hname) hbare hpart

/-! ## Groups -/

/-- The constraints of a group, field by field. -/
def stored (fields : FieldConstraints) : List (String × Constraint) :=
  fields.flatMap fun (field, cs) => cs.map fun c => (field, c)

theorem forall_mem_stored_iff {fields : FieldConstraints}
    {P : String → Constraint → Prop} :
    (∀ e ∈ stored fields, P e.1 e.2) ↔ ∀ e ∈ fields, ∀ c ∈ e.2, P e.1 c := by
  unfold stored
  rw [List.forall_mem_flatMap]
  exact forall₂_congr fun e _ => List.forall_mem_map

private theorem stored_eq_nil_iff {fields : FieldConstraints} :
    stored fields = [] ↔ ∀ e ∈ fields, ∀ c ∈ e.2, False :=
  List.eq_nil_iff_forall_not_mem.trans (forall_mem_stored_iff (P := fun _ _ => False))

/-- The trees of the constraints of a group. -/
def subtrees (r : Registry) (fields : FieldConstraints) : Except Failure (List Tree) :=
  (stored fields).mapM fun (field, c) => subtree r field c

/-- The groups behind group 0 that hold a constraint. -/
def furtherGroups (groups : Groups) : Groups :=
  groups.filter fun (group, fields) => decide (0 < group) && !(stored fields).isEmpty

/-- The trees of these groups: one of the constraints of each has to hold. -/
def furtherTrees (r : Registry) (groups : Groups) : Except Failure (List Tree) :=
  (furtherGroups groups).mapM fun group => (subtrees r group.2).map .any

/-- The tree of a filter: the constraints of group 0 and the further groups all have to
hold. -/
def filterTree (r : Registry) (groups : Groups) : Except Failure Tree := do
  let root ← subtrees r (groups.fields 0)
  let further ← furtherTrees r groups
  return .all (root ++ further)

variable {fields : FieldConstraints} {groups : Groups} {group : Int} {parts : List String}
  {partsOf : List (List String)}

theorem groupParts_eq_ok (h : groupParts r group fields = .ok parts) :
    ∃ exprs, groupExpressions r fields = .ok exprs ∧
      parts = if group = 0 ∨ exprs.isEmpty then exprs else [join "or" exprs] := by
  unfold groupParts at h
  obtain ⟨exprs, hexprs, h⟩ := exists_of_bind_eq_ok h
  exact ⟨exprs, hexprs, (Except.ok.inj h).symm⟩

/-- The expressions for a group are read as the trees of its constraints. -/
theorem reads_groupExpressions (hc : ∀ e ∈ stored fields, Readable r e.1 e.2)
    (h : groupExpressions r fields = .ok parts) :
    ∃ ts, subtrees r fields = .ok ts ∧ List.Forall₂ Reads parts ts :=
  exists_mapM_eq_ok hc h

private theorem length_groupExpressions (h : groupExpressions r fields = .ok parts) :
    parts.length = (stored fields).length := by
  have hpure : ∀ e ∈ stored fields, ∀ s, expression (some r) e.1 e.2 = .ok s →
      ∃ e', (pure e : Except Failure (String × Constraint)) = .ok e' ∧ True :=
    fun e _ _ _ => ⟨e, rfl, True.intro⟩
  obtain ⟨es, hes, hforall⟩ := exists_mapM_eq_ok hpure h
  rw [List.mapM_pure, List.map_id'] at hes
  obtain rfl := Except.ok.inj hes
  exact hforall.length_eq

private theorem groupParts_eq_nil_iff (h : groupParts r group fields = .ok parts) :
    parts = [] ↔ stored fields = [] := by
  obtain ⟨exprs, hexprs, rfl⟩ := groupParts_eq_ok h
  rw [← List.length_eq_zero_iff (l := stored fields), ← length_groupExpressions hexprs,
    List.length_eq_zero_iff]
  split
  · rfl
  · next hne =>
    rw [not_or, List.isEmpty_iff] at hne
    exact ⟨fun hnil => absurd hnil (List.cons_ne_nil _ _), fun hnil => absurd hnil hne.2⟩

/-- Nothing is said of the groups exactly if they hold nothing. -/
private theorem flatten_eq_nil_iff
    (h : groups.mapM (fun (group, fields) => groupParts r group fields) = .ok partsOf) :
    partsOf.flatten = [] ↔ ∀ g ∈ groups, stored g.2 = [] := by
  induction groups generalizing partsOf with
  | nil =>
    obtain rfl := Except.ok.inj h
    simp
  | cons g groups ih =>
    obtain ⟨parts, rest, hparts, hrest, rfl⟩ := exists_of_mapM_cons_eq_ok h
    rw [List.flatten_cons, List.append_eq_nil_iff, groupParts_eq_nil_iff hparts, ih hrest,
      List.forall_mem_cons]

private theorem furtherGroups_cons (group : Int) (fields : FieldConstraints) (groups : Groups) :
    furtherGroups ((group, fields) :: groups) =
      if 0 < group ∧ stored fields ≠ [] then (group, fields) :: furtherGroups groups
      else furtherGroups groups := by
  simp [furtherGroups, List.filter_cons]

private theorem furtherTrees_cons_of_nonpos (h : group ≤ 0) (fields : FieldConstraints)
    (groups : Groups) : furtherTrees r ((group, fields) :: groups) = furtherTrees r groups := by
  unfold furtherTrees
  rw [furtherGroups_cons, if_neg fun hand => Int.not_lt.2 h hand.1]

/-- What a further group says is read as its one tree, if it holds anything. -/
private theorem reads_furtherGroup {further : List Tree} (hgroup : 0 < group)
    (hc : ∀ e ∈ stored fields, Readable r e.1 e.2)
    (h : groupParts r group fields = .ok parts) (hfurther : furtherTrees r groups = .ok further) :
    ∃ ts, furtherTrees r ((group, fields) :: groups) = .ok (ts ++ further) ∧
      List.Forall₂ Reads parts ts := by
  have hnil := groupParts_eq_nil_iff h
  obtain ⟨exprs, hexprs, hparts⟩ := groupParts_eq_ok h
  obtain ⟨ts, hts, hreads⟩ := reads_groupExpressions hc hexprs
  unfold furtherTrees
  rw [furtherGroups_cons]
  by_cases hstored : stored fields = []
  · refine ⟨[], ?_, ?_⟩
    · rw [if_neg fun h => h.2 hstored]
      exact hfurther
    · rw [hnil.2 hstored]
      exact .nil
  · refine ⟨[.any ts], ?_, ?_⟩
    · unfold furtherTrees at hfurther
      rw [if_pos ⟨hgroup, hstored⟩, List.mapM_cons, hfurther, hts]
      rfl
    · have hne : ¬(group = 0 ∨ exprs.isEmpty) := by
        rintro (hzero | hempty)
        · exact Int.ne_of_gt hgroup hzero
        · refine hstored (hnil.1 ?_)
          rw [hparts, if_pos (.inr hempty), List.isEmpty_iff.1 hempty]
      rw [hparts, if_neg hne]
      exact .cons (reads_join (o := .or) hreads rfl) .nil

/-- What the groups say is read as the trees of the constraints of group 0 and behind them
those of the further groups. -/
private theorem reads_groups (hordered : groups.Ordered)
    (hneg : ∀ g ∈ groups, g.1 < 0 → stored g.2 = [])
    (hc : ∀ g ∈ groups, ∀ e ∈ stored g.2, Readable r e.1 e.2)
    (h : groups.mapM (fun (group, fields) => groupParts r group fields) = .ok partsOf) :
    ∃ root further, subtrees r (groups.fields 0) = .ok root ∧
      furtherTrees r groups = .ok further ∧
      List.Forall₂ Reads partsOf.flatten (root ++ further) := by
  induction groups generalizing partsOf with
  | nil =>
    obtain rfl := Except.ok.inj h
    exact ⟨[], [], rfl, rfl, .nil⟩
  | cons g groups ih =>
    obtain ⟨group, fields⟩ := g
    obtain ⟨parts, rest, hparts, hrest, rfl⟩ := exists_of_mapM_cons_eq_ok h
    obtain ⟨hlt, hordered⟩ := Groups.ordered_cons.1 hordered
    obtain ⟨hneg, hnegs⟩ := List.forall_mem_cons.1 hneg
    obtain ⟨hc, hcs⟩ := List.forall_mem_cons.1 hc
    obtain ⟨root, further, hroot, hfurther, hreads⟩ := ih hordered hnegs hcs hrest
    -- group 0 comes first, so behind any other group but a negative one there is none
    have hempty (h : 0 ≤ group) : root = [] := by
      have hzero : 0 ∉ Groups.numbers groups := fun hm => absurd (hlt 0 hm) (Int.not_lt.2 h)
      rw [Groups.fields_of_not_mem hzero] at hroot
      exact (Except.ok.inj hroot).symm
    rcases Int.lt_trichotomy group 0 with hgroup | rfl | hgroup
    · refine ⟨root, further, ?_, ?_, ?_⟩
      · rw [Groups.fields_cons_of_ne (Int.ne_of_gt hgroup)]
        exact hroot
      · exact (furtherTrees_cons_of_nonpos (Int.le_of_lt hgroup) _ _).trans hfurther
      · rw [List.flatten_cons, (groupParts_eq_nil_iff hparts).2 (hneg hgroup)]
        exact hreads
    · obtain ⟨exprs, hexprs, heq⟩ := groupParts_eq_ok hparts
      obtain ⟨ts, hts, htsreads⟩ := reads_groupExpressions hc hexprs
      refine ⟨ts, further, ?_, ?_, ?_⟩
      · rw [Groups.fields_cons_self]
        exact hts
      · exact (furtherTrees_cons_of_nonpos (Int.le_refl 0) _ _).trans hfurther
      · rw [hempty (Int.le_refl 0)] at hreads
        rw [heq, if_pos (Or.inl rfl)]
        exact List.rel_append htsreads hreads
    · obtain ⟨ts, hts, htsreads⟩ := reads_furtherGroup hgroup hc hparts hfurther
      refine ⟨[], ts ++ further, ?_, hts, ?_⟩
      · rw [Groups.fields_cons_of_ne (Int.ne_of_lt hgroup), hroot]
        exact congrArg Except.ok (hempty (Int.le_of_lt hgroup))
      · rw [hempty (Int.le_of_lt hgroup)] at hreads
        exact List.rel_append htsreads hreads

/-! ## Filters -/

variable {f : Filter} {q : Option String}

private theorem stored_eq_nil_iff_constraints (hf : f.Keyed) :
    (∀ g ∈ f.groups, stored g.2 = []) ↔ ∀ group field, f.constraints field group = [] :=
  calc (∀ g ∈ f.groups, stored g.2 = [])
    _ ↔ ∀ g ∈ f.groups, ∀ e ∈ g.2, ∀ c ∈ e.2, False := by simp only [stored_eq_nil_iff]
    _ ↔ ∀ group field, ∀ c ∈ f.constraints field group, False :=
      (Filter.forall_constraints_iff hf (P := fun _ _ _ => False)).symm
    _ ↔ ∀ group field, f.constraints field group = [] := by
      simp only [List.eq_nil_iff_forall_not_mem]

/-- The query of a filter is read as its tree, and only a filter without constraints has
none. -/
theorem parse_ofFilter_of_readable (hf : f.WellFormed) {registry : Option Registry}
    (hc : ∀ group field, ∀ c ∈ f.constraints field group,
      Readable (registry.getD f.registry) field c)
    (h : ofFilter registry f = .ok q) :
    (q = none ↔ ∀ group field, f.constraints field group = []) ∧
      ∀ text ∈ q, ∃ t, filterTree (registry.getD f.registry) f.groups = .ok t ∧
        parse text = some t := by
  generalize hr : registry.getD f.registry = r at hc
  unfold ofFilter at h
  rw [hr] at h
  obtain ⟨partsOf, hparts, h⟩ := exists_of_bind_eq_ok h
  have hstored : ∀ g ∈ f.groups, ∀ e ∈ stored g.2, Readable r e.1 e.2 := by
    intro g hg
    exact forall_mem_stored_iff.2 ((Filter.forall_constraints_iff hf.toKeyed).1 hc g hg)
  have hneg : ∀ g ∈ f.groups, g.1 < 0 → stored g.2 = [] := by
    intro g hg hlt
    have hfields := hf.nonneg g.1 hlt
    rw [Groups.fields_of_mem hf.ordered hg] at hfields
    rw [hfields]
    rfl
  have hnil := (flatten_eq_nil_iff hparts).trans (stored_eq_nil_iff_constraints hf.toKeyed)
  obtain ⟨root, further, hroot, hfurther, hreads⟩ := reads_groups hf.ordered hneg hstored hparts
  rw [← hnil]
  split at h
  · next hempty =>
    obtain rfl := Except.ok.inj h
    exact ⟨⟨fun _ => List.isEmpty_iff.1 hempty, fun _ => rfl⟩, fun text htext => nomatch htext⟩
  · next hempty =>
    obtain rfl := Except.ok.inj h
    have hne : partsOf.flatten ≠ [] := fun hnil => hempty (List.isEmpty_iff.2 hnil)
    refine ⟨⟨fun hnone => (nomatch hnone), fun hnil => absurd hnil hne⟩, fun text htext => ?_⟩
    obtain rfl := Option.some.inj htext
    refine ⟨.all (root ++ further), ?_, parse_of_reads (reads_join (o := .and) hreads rfl)⟩
    unfold filterTree
    rw [hroot, hfurther]
    rfl

theorem parse_ofFilter (hf : f.WellFormed) {registry : Option Registry}
    (hc : ∀ group field, ∀ c ∈ f.constraints field group,
      Expressible (registry.getD f.registry) field c)
    (h : ofFilter registry f = .ok q) :
    (q = none ↔ ∀ group field, f.constraints field group = []) ∧
      ∀ text ∈ q, ∃ t, filterTree (registry.getD f.registry) f.groups = .ok t ∧
        parse text = some t :=
  parse_ofFilter_of_readable hf (fun group field c hmem => (hc group field c hmem).readable) h

/-- Whatever changes made a filter, it has a query exactly if it has a constraint, and this
query is read from its beginning to its end as the tree of the filter. -/
theorem parse_ofFilter_run (r : Registry) (changes : List Change) (registry : Option Registry)
    (hc : ∀ group field, ∀ c ∈ ((Filter.empty r).run changes).constraints field group,
      Expressible (registry.getD r) field c)
    (h : ofFilter registry ((Filter.empty r).run changes) = .ok q) :
    (q = none ↔ ∀ group field, ((Filter.empty r).run changes).constraints field group = []) ∧
      ((Filter.empty r).run changes).groups.Ordered ∧
      ∀ text ∈ q, ∃ t,
        filterTree (registry.getD r) ((Filter.empty r).run changes).groups = .ok t ∧
          parse text = some t := by
  have hf := Filter.wellFormed_run r changes
  have hregistry : ((Filter.empty r).run changes).registry = r :=
    Filter.registry_run (Filter.empty r) changes
  generalize (Filter.empty r).run changes = f at hf hc h hregistry
  subst hregistry
  obtain ⟨hnone, hparse⟩ := parse_ofFilter hf hc h
  exact ⟨hnone, hf.ordered, hparse⟩

/-- A field of texts with two index fields and a field of numbers. -/
def houses : Registry :=
  ⟨[("owner", ⟨["owner", "keeper"], .text, by decide⟩),
    ("rooms", ⟨["rooms"], .numeric, by decide⟩)], by decide⟩

/-- A text with a quote in group 0 and a bound behind an empty group. -/
def houseChanges : List Change :=
  [.add (.text "rooms") (.text "3") (.text ">") false 2,
    .add (.text "owner") (.text "o'b") (.text ":") false 0, .clearGroup 1]

def houseQuery : String :=
  "(and (or (field owner 'o\\'b') (field keeper 'o\\'b')) (or rooms:3..))"

def houseTree : Tree :=
  .all [.any [.equal "owner" (.quoted "o'b"), .equal "keeper" (.quoted "o'b")],
    .any [.atLeast "rooms" "3"]]

theorem parse_ofFilter_houses :
    (∀ group field, ∀ c ∈ ((Filter.empty houses).run houseChanges).constraints field group,
      Expressible houses field c) ∧
    ofFilter none ((Filter.empty houses).run houseChanges) = .ok (some houseQuery) ∧
    parse houseQuery = some houseTree := by
  have hgroups : ((Filter.empty houses).run houseChanges).groups =
      [(0, [("owner", [⟨.text "o'b", .equals, false⟩])]), (1, []),
        (2, [("rooms", [⟨.text "3", .greater, false⟩])])] := by
    rfl
  have hc : ∀ group field, ∀ c ∈ ((Filter.empty houses).run houseChanges).constraints field group,
      Expressible houses field c := by
    refine (Filter.forall_constraints_iff (P := fun _ => Expressible houses)
      (Filter.wellFormed_run houses houseChanges).toKeyed).2 ?_
    rw [hgroups]
    have howner : Expressible houses "owner" ⟨.text "o'b", .equals, false⟩ := by
      intro d hd
      obtain rfl := Option.some.inj hd
      exact ⟨by decide, fun htype => nomatch htype⟩
    have hrooms : Expressible houses "rooms" ⟨.text "3", .greater, false⟩ := by
      intro d hd
      obtain rfl := Option.some.inj hd
      have htext : (prepareText (.text "3")).toList = ['3'] := rfl
      have hnumber : IsPlainDecimal ['3'] :=
        ⟨[], ['3'], [], rfl, List.mem_cons_self,
          ⟨List.cons_ne_nil _ _, List.forall_mem_singleton.2 rfl⟩, .inl rfl⟩
      exact ⟨by decide, fun _ => htext ▸ hnumber⟩
    simpa using ⟨howner, hrooms⟩
  have hq : ofFilter none ((Filter.empty houses).run houseChanges) = .ok (some houseQuery) := by
    rfl
  obtain ⟨-, -, hparse⟩ := parse_ofFilter_run houses houseChanges none hc hq
  obtain ⟨t, ht, hparse⟩ := hparse houseQuery rfl
  have htree : filterTree houses ((Filter.empty houses).run houseChanges).groups =
      .ok houseTree := by
    rfl
  exact ⟨hc, hq, hparse.trans (congrArg some (Except.ok.inj (ht.symm.trans htree)))⟩

end FieldedSearch.BooleanQuery
