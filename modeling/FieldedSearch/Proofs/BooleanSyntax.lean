-- SUMMARY: A reader of boolean queries, and the parts that it reads as trees.
import Mathlib.Data.List.Forall2
import FieldedSearch.BooleanQuery.Expression
import FieldedSearch.Proofs.Terms

/-!
# The syntax of boolean queries

A boolean query is a term, or an operator with its operands in parentheses. A term
compares a field with a literal, with a bare value, or with a bound, of which the dots on
one side show which bound it is. The reader first cuts the text into tokens, character by
character, and then builds the tree, token by token, with the operators that are still
open on a stack. A literal is read up to the first quote without a backslash in front of it
(`takeLiteral?`), and so from an escaped text the text is read.

`Reads` is how the parts of a query are put together: a part is read as a tree if it adds
this tree to what was read before, whatever that was and whatever stands behind it.
-/

namespace FieldedSearch.BooleanQuery

/-! ## Tokens -/

/-- A piece of a boolean query. -/
inductive Token
  | opening
  | closing
  | word (w : List Char)
  | literal (s : List Char)
deriving DecidableEq, Repr

/-- Where in a boolean query a character stands, with what is read of its token. -/
inductive Place
  | outside
  | word (w : List Char)
  | literal (s : List Char)
  | escaped (s : List Char)
deriving DecidableEq, Repr

/-- The characters of words: neither blanks nor parentheses nor quotes. -/
def isWordLetter (c : Char) : Bool :=
  !Text.isBlank c && c != '(' && c != ')' && c != '\'' && c != '"'

/-- The tokens that a character ends outside of words and literals, and the place behind
it. A double quote stands nowhere but in a literal. -/
def start (c : Char) : Option (List Token × Place) :=
  if Text.isBlank c then some ([], .outside)
  else if c = '(' then some ([.opening], .outside)
  else if c = ')' then some ([.closing], .outside)
  else if c = '\'' then some ([], .literal [])
  else if c = '"' then none
  else some ([], .word [c])

/-- What a character after a backslash stands for. -/
def unescape (c : Char) : Char := if c = '0' then '\x00' else c

/-- The tokens that a character ends, and the place behind it. -/
def step : Place → Char → Option (List Token × Place)
  | .outside, c => start c
  | .word w, c =>
    if isWordLetter c then some ([], .word (w ++ [c]))
    else (start c).map fun (ts, p) => (.word w :: ts, p)
  | .literal s, c =>
    if c = '\'' then some ([.literal s], .outside)
    else if c = '\\' then some ([], .escaped s)
    else some ([], .literal (s ++ [c]))
  | .escaped s, c => some ([], .literal (s ++ [unescape c]))

/-- The tokens of a text that begins in a given place and ends outside of literals. -/
def lex : Place → List Char → Option (List Token)
  | .outside, [] => some []
  | .word w, [] => some [.word w]
  | .literal _, [] | .escaped _, [] => none
  | p, c :: s => (step p c).bind fun (ts, p') => (lex p' s).map (ts ++ ·)

/-- The text of a literal, read from behind its opening quote, and what stands behind the
closing one. -/
def takeLiteral? : List Char → Option (List Char × List Char)
  | [] => none
  | '\'' :: s => some ([], s)
  | ['\\'] => none
  | '\\' :: c :: s => (takeLiteral? s).map fun r => (unescape c :: r.1, r.2)
  | c :: s => (takeLiteral? s).map fun r => (c :: r.1, r.2)

/-! ## Trees -/

/-- What a field is compared with. -/
inductive Operand
  | quoted (s : String)
  | bare (s : String)
deriving DecidableEq, Repr

/-- A boolean query as a tree. -/
inductive Tree
  | equal (name : String) (value : Operand)
  | atLeast (name value : String)
  | atMost (name value : String)
  | negation (t : Tree)
  | all (ts : List Tree)
  | any (ts : List Tree)
deriving Repr

/-- What joins the operands between two parentheses. -/
inductive Operator
  | and
  | or
  | not
deriving DecidableEq, Repr

namespace Operator

/-- The word of an operator. -/
def word : Operator → String
  | .and => "and"
  | .or => "or"
  | .not => "not"

/-- The operator of a word. -/
def ofWord? (w : List Char) : Option Operator := [and, or, not].find? (·.word.toList = w)

/-- The tree that an operator makes of its operands; only one tree can be negated. -/
def node? : Operator → List Tree → Option Tree
  | .and, ts => some (.all ts)
  | .or, ts => some (.any ts)
  | .not, [t] => some (.negation t)
  | .not, _ => none

end Operator

/-- The name and the value of a term, with the first colon between them. -/
def splitTerm? (w : List Char) : Option (String × List Char) :=
  match w.dropWhile (· != ':') with
  | _ :: value => some (String.ofList (w.takeWhile (· != ':')), value)
  | [] => none

/-- The tree of a term without a literal: two dots in front of the value or behind it make
it a bound. -/
def bareTerm (name : String) (value : List Char) : Tree :=
  match value with
  | '.' :: '.' :: bound => .atMost name (String.ofList bound)
  | _ =>
    match value.reverse with
    | '.' :: '.' :: bound => .atLeast name (String.ofList bound.reverse)
    | _ => .equal name (.bare (String.ofList value))

/-- The word in front of a field and a literal. -/
def fieldWord : List Char := "field".toList

/-- What the reader waits for. -/
inductive Expected
  | term
  | operator
  | name
  | value (name : String)
  | literal (name : String)
  | closing
deriving DecidableEq, Repr

/-- How far the reader has come: the trees that it read since the last open operator, and
for each open operator the trees in front of it. -/
structure Reader where
  expected : Expected
  trees : List Tree
  stack : List (Operator × List Tree)
deriving Repr

namespace Reader

/-- The reader before the first token. -/
def initial : Reader := ⟨.term, [], []⟩

/-- The reader with one more tree, behind which a term may stand. -/
def push (r : Reader) (t : Tree) : Reader := ⟨.term, r.trees ++ [t], r.stack⟩

/-- The reader behind one more token. -/
def next? (r : Reader) (token : Token) : Option Reader :=
  match r.expected, token with
  | .term, .opening => some { r with expected := .operator }
  | .operator, .word w =>
    if w = fieldWord then some { r with expected := .name }
    else (Operator.ofWord? w).map fun o => ⟨.term, [], (o, r.trees) :: r.stack⟩
  | .name, .word w => some { r with expected := .value (String.ofList w) }
  | .value name, .literal s =>
    some { r.push (.equal name (.quoted (String.ofList s))) with expected := .closing }
  | .closing, .closing => some { r with expected := .term }
  | .term, .word w =>
    (splitTerm? w).map fun (name, value) =>
      if value = [] then { r with expected := .literal name } else r.push (bareTerm name value)
  | .literal name, .literal s => some (r.push (.equal name (.quoted (String.ofList s))))
  | .term, .closing =>
    match r.stack with
    | (o, before) :: stack => (o.node? r.trees).map (push ⟨.term, before, stack⟩)
    | [] => none
  | _, _ => none

/-- The tree, if the reader has read one and waits for nothing else. -/
def tree? : Reader → Option Tree
  | ⟨.term, [t], []⟩ => some t
  | _ => none

end Reader

/-- The tree that a boolean query denotes, if it is one from its beginning to its end. -/
def parse (s : String) : Option Tree := do
  let tokens ← lex .outside s.toList
  let reader ← tokens.foldlM Reader.next? .initial
  reader.tree?

/-! ## Texts and their tokens -/

open Query (StopsAt stopsAt_nil stopsAt_cons)

variable {s t u v w : List Char} {a b : List Token}

theorem lex_cons (p : Place) (c : Char) (s : List Char) :
    lex p (c :: s) = (step p c).bind fun r => (lex r.2 s).map (r.1 ++ ·) := by
  cases p <;> rfl

/-- Behind a character that ends no token the text is read on. -/
theorem lex_of_step {p p' : Place} {c : Char} (h : step p c = some ([], p'))
    (s : List Char) : lex p (c :: s) = lex p' s := by
  rw [lex_cons, h, Option.bind_some]
  exact Option.map_id'

/-- The letters of a word are read into it. -/
private theorem lex_word (hw : ∀ c ∈ w, isWordLetter c) (v u : List Char) :
    lex (.word v) (w ++ u) = lex (.word (v ++ w)) u := by
  induction w generalizing v with
  | nil => rw [List.nil_append, List.append_nil]
  | cons c w ih =>
    obtain ⟨hc, hw⟩ := List.forall_mem_cons.1 hw
    have hstep : step (.word v) c = some ([], .word (v ++ [c])) := if_pos hc
    rw [List.cons_append, lex_of_step hstep, ih hw, List.append_assoc]
    rfl

/-- Anything else ends it. -/
private theorem lex_word_stop (hu : StopsAt isWordLetter u) (w : List Char) :
    lex (.word w) u = (lex .outside u).map (.word w :: ·) := by
  cases u with
  | nil => rfl
  | cons c u =>
    have hstep : step (.word w) c = (start c).map fun (ts, p) => (.word w :: ts, p) := by
      rw [step, stopsAt_cons.1 hu]
      rfl
    have hstart : step .outside c = start c := rfl
    rw [lex_cons, lex_cons, hstep, hstart]
    cases start c with
    | none => rfl
    | some r =>
      rw [Option.map_some, Option.bind_some, Option.bind_some, Option.map_map]
      rfl

theorem takeLiteral?_quote (s : List Char) : takeLiteral? ('\'' :: s) = some ([], s) := by
  rw [takeLiteral?]

theorem takeLiteral?_backslash (c : Char) (s : List Char) : takeLiteral? ('\\' :: c :: s) =
    (takeLiteral? s).map fun r => (unescape c :: r.1, r.2) := by
  rw [takeLiteral?]

theorem takeLiteral?_cons {c : Char} (hquote : c ≠ '\'') (hslash : c ≠ '\\') (s : List Char) :
    takeLiteral? (c :: s) = (takeLiteral? s).map fun r => (c :: r.1, r.2) := by
  rw [takeLiteral?]
  · exact hquote
  · exact fun h _ => hslash h
  · exact fun _ _ h _ => hslash h

/-- The reader comes to the end of a text, to a quote, to a backslash with or without a
character behind it, or to any other character. -/
theorem literal_induction {P : List Char → Prop} (nil : P []) (quote : ∀ s, P ('\'' :: s))
    (lone : P ['\\']) (escaped : ∀ c s, P s → P ('\\' :: c :: s))
    (plain : ∀ c s, c ≠ '\'' → c ≠ '\\' → P s → P (c :: s)) (s : List Char) : P s := by
  induction s using takeLiteral?.induct with
  | case1 => exact nil
  | case2 s => exact quote s
  | case3 => exact lone
  | case4 c s ih => exact escaped c s ih
  | case5 c s hquote hlone hescaped ih =>
    refine plain c s hquote (fun hslash => ?_) ih
    cases s with
    | nil => exact hlone hslash rfl
    | cons d s => exact hescaped d s hslash rfl

/-- In a literal its text is read up to the quote that closes it, and then what stands behind. -/
theorem lex_literal (w s : List Char) : lex (.literal w) s =
    (takeLiteral? s).bind fun r => (lex .outside r.2).map (.literal (w ++ r.1) :: ·) := by
  induction s using literal_induction generalizing w with
  | nil => rfl
  | quote s =>
    have hstep : step (.literal w) '\'' = some ([.literal w], .outside) := rfl
    rw [lex_cons, hstep, takeLiteral?_quote, Option.bind_some, Option.bind_some, List.append_nil]
    rfl
  | lone => rfl
  | escaped c s ih =>
    have hbackslash : step (.literal w) '\\' = some ([], .escaped w) := rfl
    have hescaped : step (.escaped w) c = some ([], .literal (w ++ [unescape c])) := rfl
    rw [lex_of_step hbackslash, lex_of_step hescaped, ih, takeLiteral?_backslash, Option.bind_map]
    simp only [Function.comp_def, List.append_assoc, List.singleton_append]
  | plain c s hquote hslash ih =>
    have hstep : step (.literal w) c = some ([], .literal (w ++ [c])) := by
      rw [step, if_neg hquote, if_neg hslash]
    rw [lex_of_step hstep, ih, takeLiteral?_cons hquote hslash, Option.bind_map]
    simp only [Function.comp_def, List.append_assoc, List.singleton_append]

/-- An escaped character is read as the character. -/
theorem takeLiteral?_escapeChar (c : Char) (s : List Char) :
    takeLiteral? (escapeChar c ++ s) = (takeLiteral? s).map fun r => (c :: r.1, r.2) := by
  unfold escapeChar
  split
  · next h =>
    have hself : unescape c = c := by
      rcases h with rfl | rfl | rfl <;> rfl
    rw [List.cons_append, List.singleton_append, takeLiteral?_backslash, hself]
  · next h =>
    split
    · next hnul =>
      have hzero : unescape '0' = c := hnul.symm
      rw [List.cons_append, List.singleton_append, takeLiteral?_backslash, hzero]
    · obtain ⟨hslash, hquote, -⟩ : c ≠ '\\' ∧ c ≠ '\'' ∧ c ≠ '"' := by
        simpa only [not_or] using h
      exact takeLiteral?_cons hquote hslash s

/-- An escaped text is read up to the quote behind it. -/
theorem takeLiteral?_flatMap_escapeChar (v s : List Char) :
    takeLiteral? (v.flatMap escapeChar ++ '\'' :: s) = some (v, s) := by
  induction v with
  | nil => exact takeLiteral?_quote s
  | cons c v ih =>
    rw [List.flatMap_cons, List.append_assoc, takeLiteral?_escapeChar, ih]
    rfl

/-- A text has the given tokens, whatever stands behind it as long as it continues no
word. -/
def Lexes (s : List Char) (a : List Token) : Prop :=
  ∀ u, StopsAt isWordLetter u → lex .outside (s ++ u) = (lex .outside u).map (a ++ ·)

theorem lexes_nil : Lexes [] [] := by
  intro u _
  rw [List.nil_append]
  cases lex .outside u <;> rfl

/-- The tokens of two texts are those of the one, then those of the other, if no word of the
first goes on in the second. -/
theorem Lexes.append (hs : Lexes s a) (ht : Lexes t b)
    (hstop : ∀ u, StopsAt isWordLetter u → StopsAt isWordLetter (t ++ u)) :
    Lexes (s ++ t) (a ++ b) := by
  intro u hu
  rw [List.append_assoc, hs _ (hstop u hu), ht u hu, Option.map_map]
  congr 1
  funext c
  exact (List.append_assoc a b c).symm

theorem Lexes.blank (h : Lexes s a) : Lexes (' ' :: s) a := by
  intro u hu
  have hstep : step .outside ' ' = some ([], .outside) := rfl
  rw [List.cons_append, lex_of_step hstep, h u hu]

theorem Lexes.opening (h : Lexes s a) : Lexes ('(' :: s) (.opening :: a) := by
  intro u hu
  have hstep : step .outside '(' = some ([.opening], .outside) := rfl
  rw [List.cons_append, lex_cons, hstep, Option.bind_some, h u hu, Option.map_map]
  rfl

theorem lexes_closing : Lexes [')'] [.closing] := by
  intro u _
  have hstep : step .outside ')' = some ([.closing], .outside) := rfl
  rw [List.singleton_append, lex_cons, hstep, Option.bind_some]

theorem lexes_word (hne : w ≠ []) (hw : ∀ c ∈ w, isWordLetter c) : Lexes w [.word w] := by
  intro u hu
  cases w with
  | nil => exact absurd rfl hne
  | cons c w =>
    obtain ⟨hc, hw⟩ := List.forall_mem_cons.1 hw
    have hstep : step .outside c = some ([], .word [c]) := by
      simp only [isWordLetter, Bool.and_eq_true, Bool.not_eq_true', bne_iff_ne, ne_eq] at hc
      obtain ⟨⟨⟨⟨hblank, hopen⟩, hclose⟩, hquote⟩, hdouble⟩ := hc
      rw [step, start, hblank, if_neg Bool.false_ne_true, if_neg hopen, if_neg hclose,
        if_neg hquote, if_neg hdouble]
    rw [List.cons_append, lex_of_step hstep, lex_word hw, lex_word_stop hu]
    rfl

theorem toList_literal (s : String) :
    (literal s).toList = '\'' :: (s.toList.flatMap escapeChar ++ ['\'']) := by
  have hquote : "'".toList = ['\''] := rfl
  unfold literal
  rw [escape, String.toList_append, String.toList_append, hquote, String.toList_ofList,
    List.append_assoc]
  rfl

/-- A literal is one token, whatever stands behind it. -/
theorem lex_literal_append (v : String) (s : List Char) :
    lex .outside ((literal v).toList ++ s) = (lex .outside s).map (.literal v.toList :: ·) := by
  have hopen : step .outside '\'' = some ([], .literal []) := rfl
  rw [toList_literal, List.cons_append, lex_of_step hopen, lex_literal,
    List.append_assoc, List.singleton_append, takeLiteral?_flatMap_escapeChar]
  rfl

theorem lexes_literal (s : String) : Lexes (literal s).toList [.literal s.toList] :=
  fun u _ => lex_literal_append s u

/-! ## Tokens and their trees -/

/-- Some tokens add trees to what was read, whatever that was. -/
def Adds (a : List Token) (ts : List Tree) : Prop :=
  ∀ trees stack, a.foldlM Reader.next? ⟨.term, trees, stack⟩ = some ⟨.term, trees ++ ts, stack⟩

theorem adds_nil : Adds [] [] := by
  intro trees stack
  rw [List.append_nil]
  rfl

theorem Adds.append {ts us : List Tree} (ha : Adds a ts) (hb : Adds b us) :
    Adds (a ++ b) (ts ++ us) := by
  intro trees stack
  rw [List.foldlM_append, ha trees stack]
  exact (hb (trees ++ ts) stack).trans (by rw [List.append_assoc])

/-- An operator makes a tree of the trees between its parentheses. -/
theorem Adds.operator {o : Operator} {ts : List Tree} {t : Tree} (h : Adds a ts)
    (ht : o.node? ts = some t) :
    Adds (.opening :: .word o.word.toList :: (a ++ [.closing])) [t] := by
  intro trees stack
  have hopening : Reader.next? ⟨.term, trees, stack⟩ .opening =
      some ⟨.operator, trees, stack⟩ := rfl
  have hword : Reader.next? ⟨.operator, trees, stack⟩ (.word o.word.toList) =
      some ⟨.term, [], (o, trees) :: stack⟩ := by
    cases o <;> rfl
  have hclosing : Reader.next? ⟨.term, ts, (o, trees) :: stack⟩ .closing =
      some ⟨.term, trees ++ [t], stack⟩ := by
    have hpop : Reader.next? ⟨.term, ts, (o, trees) :: stack⟩ .closing =
        (o.node? ts).map (Reader.push ⟨.term, trees, stack⟩) := rfl
    rw [hpop, ht]
    rfl
  have hinner := h [] ((o, trees) :: stack)
  rw [List.nil_append] at hinner
  calc (Token.opening :: Token.word o.word.toList :: (a ++ [Token.closing])).foldlM Reader.next?
        ⟨.term, trees, stack⟩
    _ = (a ++ [Token.closing]).foldlM Reader.next? ⟨.term, [], (o, trees) :: stack⟩ := by
      rw [List.foldlM_cons, hopening, Option.bind_eq_bind, Option.bind_some, List.foldlM_cons,
        hword, Option.bind_eq_bind, Option.bind_some]
    _ = [Token.closing].foldlM Reader.next? ⟨.term, ts, (o, trees) :: stack⟩ := by
      rw [List.foldlM_append, hinner, Option.bind_eq_bind, Option.bind_some]
    _ = some ⟨.term, trees ++ [t], stack⟩ := by
      rw [List.foldlM_cons, hclosing]
      rfl

theorem adds_field (name s : List Char) :
    Adds [.opening, .word fieldWord, .word name, .literal s, .closing]
      [.equal (String.ofList name) (.quoted (String.ofList s))] := by
  intro trees stack
  rfl

private theorem next?_word (trees : List Tree) (stack : List (Operator × List Tree))
    (w : List Char) :
    Reader.next? ⟨.term, trees, stack⟩ (.word w) = (splitTerm? w).map fun r =>
      if r.2 = [] then ⟨.literal r.1, trees, stack⟩
      else ⟨.term, trees ++ [bareTerm r.1 r.2], stack⟩ :=
  rfl

/-- A term ends with its value, if it has one. -/
theorem adds_bareTerm {name : String} {value : List Char} (hw : splitTerm? w = some (name, value))
    (hne : value ≠ []) : Adds [.word w] [bareTerm name value] := by
  intro trees stack
  rw [List.foldlM_cons, next?_word, hw, Option.map_some, if_neg hne]
  rfl

/-- A term that breaks off behind the colon ends with a literal. -/
theorem adds_literalTerm {name : String} (hw : splitTerm? w = some (name, [])) (s : List Char) :
    Adds [.word w, .literal s] [.equal name (.quoted (String.ofList s))] := by
  intro trees stack
  rw [List.foldlM_cons, next?_word, hw]
  rfl

/-! ## Texts and their trees -/

/-- A text is read as a tree wherever it stands. -/
def Reads (s : String) (t : Tree) : Prop := ∃ a, Lexes s.toList a ∧ Adds a [t]

/-- A whole text that is read as a tree denotes it. -/
theorem parse_of_reads {s : String} {t : Tree} (h : Reads s t) : parse s = some t := by
  obtain ⟨a, hlex, hadds⟩ := h
  have htokens : lex .outside s.toList = some a := by
    have := hlex [] (stopsAt_nil _)
    rw [List.append_nil] at this
    exact this.trans (congrArg some (List.append_nil a))
  have hreader : a.foldlM Reader.next? .initial = some ⟨.term, [t], []⟩ := hadds [] []
  unfold parse
  rw [htokens, Option.bind_eq_bind, Option.bind_some, hreader]
  rfl

private theorem lexes_intercalate {parts : List String} {as : List (List Token)}
    (h : List.Forall₂ (fun s a => Lexes s.toList a) parts as) :
    Lexes (" ".intercalate parts).toList as.flatten := by
  induction h with
  | nil => exact lexes_nil
  | @cons s a parts as hs hparts ih =>
    cases parts with
    | nil =>
      obtain rfl := List.forall₂_nil_left_iff.1 hparts
      simpa using hs
    | cons t parts =>
      rw [String.intercalate_cons_cons, String.toList_append, String.toList_append,
        List.append_assoc, List.flatten_cons]
      exact hs.append ih.blank fun u _ => stopsAt_cons.2 rfl

/-- Texts that are joined by an operator are read as the tree that it makes of theirs. -/
theorem reads_join {o : Operator} {parts : List String} {ts : List Tree} {t : Tree}
    (h : List.Forall₂ Reads parts ts) (ht : o.node? ts = some t) : Reads (join o.word parts) t := by
  obtain ⟨as, hlexes, hadds⟩ : ∃ as, List.Forall₂ (fun s a => Lexes s.toList a) parts as ∧
      Adds as.flatten ts := by
    clear ht
    induction h with
    | nil => exact ⟨[], .nil, adds_nil⟩
    | cons hs _ ih =>
      obtain ⟨a, hlex, hadds⟩ := hs
      obtain ⟨as, hlexes, hrest⟩ := ih
      exact ⟨a :: as, .cons hlex hlexes, hadds.append hrest⟩
  have hword : Lexes o.word.toList [.word o.word.toList] := by
    cases o <;> exact lexes_word (by decide) (List.all_eq_true.1 (by decide))
  have hblank (s : List Char) :
      ∀ u, StopsAt isWordLetter u → StopsAt isWordLetter (' ' :: s ++ u) :=
    fun u _ => stopsAt_cons.2 rfl
  have hclosing : ∀ u, StopsAt isWordLetter u → StopsAt isWordLetter ([')'] ++ u) :=
    fun u _ => stopsAt_cons.2 rfl
  have hbody := (lexes_intercalate hlexes).blank.append lexes_closing hclosing
  refine ⟨.opening :: .word o.word.toList :: (as.flatten ++ [.closing]), ?_, hadds.operator ht⟩
  have htext : (join o.word parts).toList =
      '(' :: (o.word.toList ++ (' ' :: (" ".intercalate parts).toList ++ [')'])) := by
    have hopen : "(".toList = ['('] := rfl
    have hspace : " ".toList = [' '] := rfl
    have hclose : ")".toList = [')'] := rfl
    simp only [join, String.toList_append, hopen, hspace, hclose, List.append_assoc,
      List.cons_append, List.nil_append]
  rw [htext]
  exact (hword.append hbody (hblank _)).opening

end FieldedSearch.BooleanQuery
