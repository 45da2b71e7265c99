-- SUMMARY: Text that is escaped has no tags in it, so messages between tags are always drawn.
import FieldedSearch.CommandLine.Transcript
import FieldedSearch.Proofs.Outcomes
import FieldedSearch.Proofs.Terms

/-!
# Escaped text

An escaped text is cut into the pieces of the text itself, except that every tag has an odd
number of backslashes in front of it and is shown. No tag is made of a stretch that was none
and of what is put in front of the next tag, nor of what stands behind the text, as long as
that begins like no tag and closes none. So whatever a message says, it can be drawn between
the tags of a style.
-/

namespace FieldedSearch.Markup

open Query (StopsAt stopsAt_cons takeWhile_append_stop dropWhile_append_stop)

variable {c : Char} {n m : Nat} {s t u stretch tag rest : List Char}

/-! ## Pieces, character by character -/

theorem split_nil (stretch : List Char) (n : Nat) :
    split stretch n [] = [.plain (stretch.reverse ++ List.replicate n '\\')] := by
  rw [split]

theorem split_slash (stretch : List Char) (n : Nat) (s : List Char) :
    split stretch n ('\\' :: s) = split stretch (n + 1) s := by
  rw [split, if_pos rfl]

theorem split_tag (h : takeTag? s = some (tag, rest)) (stretch : List Char) (n : Nat) :
    split stretch n ('[' :: s) = .plain stretch.reverse :: .tag n tag :: split [] 0 rest := by
  rw [split, if_neg (by decide), if_pos rfl]
  split
  · next h' =>
    obtain ⟨rfl, rfl⟩ := Prod.mk.inj (Option.some.inj (h'.symm.trans h))
    rfl
  · next h' => cases h'.symm.trans h

theorem split_bracket (h : takeTag? s = none) (stretch : List Char) (n : Nat) :
    split stretch n ('[' :: s) = split ('[' :: (List.replicate n '\\' ++ stretch)) 0 s := by
  rw [split, if_neg (by decide), if_pos rfl]
  split
  · next h' => cases h'.symm.trans h
  · rfl

theorem split_cons (hslash : c ≠ '\\') (hbracket : c ≠ '[') (stretch : List Char) (n : Nat)
    (s : List Char) :
    split stretch n (c :: s) = split (c :: (List.replicate n '\\' ++ stretch)) 0 s := by
  rw [split, if_neg hslash, if_neg hbracket]

theorem split_replicate (stretch : List Char) (n m : Nat) (s : List Char) :
    split stretch n (List.replicate m '\\' ++ s) = split stretch (n + m) s := by
  induction m generalizing n with
  | zero => rfl
  | succ m ih =>
    rw [List.replicate_succ, List.cons_append, split_slash, ih, Nat.add_right_comm]
    rfl

/-- A stretch that is no tag is cut off as it is. -/
theorem split_plain (hu : ∀ c ∈ u, c ≠ '\\' ∧ c ≠ '[') (stretch s : List Char) :
    split stretch 0 (u ++ s) = split (u.reverse ++ stretch) 0 s := by
  induction u generalizing stretch with
  | nil => rfl
  | cons c u ih =>
    obtain ⟨⟨hslash, hbracket⟩, hu⟩ := List.forall_mem_cons.1 hu
    rw [List.cons_append, split_cons hslash hbracket, List.replicate_zero, List.nil_append, ih hu]
    simp

/-- Induction along the pieces of a text: only the number of backslashes that were just read
matters. -/
@[elab_as_elim]
theorem split_induction {P : Nat → List Char → Prop} (nil : ∀ n, P n [])
    (slash : ∀ n s, P (n + 1) s → P n ('\\' :: s))
    (tag : ∀ n s w rest, takeTag? s = some (w, rest) → P 0 rest → P n ('[' :: s))
    (bracket : ∀ n s, takeTag? s = none → P 0 s → P n ('[' :: s))
    (cons : ∀ n c s, c ≠ '\\' → c ≠ '[' → P 0 s → P n (c :: s)) (n : Nat) (s : List Char) : P n s :=
  split.induct (fun _ n s => P n s) (fun _ => nil) (fun _ => slash)
    (fun _ n s w rest h _ _ => tag n s w rest h) (fun _ n s h _ => bracket n s h)
    (fun _ => cons) [] n s

/-! ## Tags -/

/-- The inside of a tag: a first character of tags, and no brackets behind it. -/
def IsTag (w : List Char) : Prop :=
  ∃ c rest, w = c :: rest ∧ isTagStart c ∧ ∀ d ∈ rest, (d != '[' && d != ']') = true

theorem IsTag.takeTag? (h : IsTag tag) (u : List Char) :
    takeTag? (tag ++ ']' :: u) = some (tag, u) := by
  obtain ⟨c, rest, rfl, hc, hrest⟩ := h
  have hstop : StopsAt (fun d => d != '[' && d != ']') (']' :: u) := stopsAt_cons.2 rfl
  rw [List.cons_append, Markup.takeTag?, if_pos hc, dropWhile_append_stop hrest hstop,
    takeWhile_append_stop hrest hstop]
  rfl

theorem isTag_of_takeTag? (h : takeTag? s = some (tag, rest)) : IsTag tag := by
  cases s with
  | nil => cases h
  | cons c s =>
    simp only [takeTag?] at h
    split at h
    · next hc =>
      split at h
      · obtain ⟨rfl, rfl⟩ := Prod.mk.inj (Option.some.inj h)
        refine ⟨c, _, rfl, hc, fun d hd => ?_⟩
        have hd := List.mem_takeWhile_imp hd
        exact hd
      · cases h
    · cases h

/-! ## Escaped text -/

/-- A text behind backslashes so marked up that its tags are shown. -/
def escaped (n : Nat) (s : List Char) : List Char := (split [] n s).flatMap Piece.escape

theorem escape_tag (n : Nat) (w : List Char) :
    Piece.escape (.tag n w) = List.replicate (2 * n + 1) '\\' ++ '[' :: w ++ [']'] := rfl

/-- What stands in front of the first tag is escaped as it is. -/
theorem flatMap_split (stretch : List Char) (n : Nat) (s : List Char) :
    (split stretch n s).flatMap Piece.escape = stretch.reverse ++ escaped n s := by
  have hstep {n : Nat} {c : Char} {s : List Char} (hcut : ∀ stretch, split stretch n (c :: s) =
        split (c :: (List.replicate n '\\' ++ stretch)) 0 s)
      (ih : ∀ stretch, (split stretch 0 s).flatMap Piece.escape = stretch.reverse ++ escaped 0 s)
      (stretch : List Char) :
      (split stretch n (c :: s)).flatMap Piece.escape =
        stretch.reverse ++ escaped n (c :: s) := by
    rw [escaped, hcut, hcut, ih, ih]
    simp
  induction n, s using split_induction generalizing stretch with
  | nil n => simp [escaped, split_nil, Piece.escape]
  | slash n s ih => rw [escaped, split_slash, split_slash, ih, escaped]
  | tag n s w rest h _ => simp [escaped, split_tag h, Piece.escape]
  | bracket n s h ih => exact hstep (fun stretch => split_bracket h stretch n) ih stretch
  | cons n c s hslash hbracket ih =>
    exact hstep (fun stretch => split_cons hslash hbracket stretch n s) ih stretch

theorem escaped_nil (n : Nat) : escaped n [] = List.replicate n '\\' := by
  rw [escaped, split_nil, List.flatMap_singleton]
  rfl

theorem escaped_slash (n : Nat) (s : List Char) : escaped n ('\\' :: s) = escaped (n + 1) s := by
  rw [escaped, split_slash]
  rfl

theorem escaped_tag (h : takeTag? s = some (tag, rest)) (n : Nat) :
    escaped n ('[' :: s) =
      List.replicate (2 * n + 1) '\\' ++ '[' :: (tag ++ ']' :: escaped 0 rest) := by
  rw [escaped, split_tag h, List.flatMap_cons, List.flatMap_cons, flatMap_split, escape_tag]
  simp [Piece.escape]

theorem escaped_bracket (h : takeTag? s = none) (n : Nat) :
    escaped n ('[' :: s) = List.replicate n '\\' ++ '[' :: escaped 0 s := by
  rw [escaped, split_bracket h, flatMap_split]
  simp

theorem escaped_cons (hslash : c ≠ '\\') (hbracket : c ≠ '[') (n : Nat) (s : List Char) :
    escaped n (c :: s) = List.replicate n '\\' ++ c :: escaped 0 s := by
  rw [escaped, split_cons hslash hbracket, flatMap_split]
  simp

/-- An escaped text is the text with its tags escaped, and perhaps one more backslash. -/
theorem toList_escape (s : String) :
    ∃ extra ∈ [[], ['\\']], (escape s).toList = escaped 0 s.toList ++ extra := by
  unfold escape
  rw [String.toList_ofList, pieces]
  split
  · exact ⟨['\\'], by simp, rfl⟩
  · split
    · exact ⟨[], by simp, (List.append_nil _).symm⟩
    · exact ⟨['\\'], by simp, rfl⟩
  · exact ⟨[], by simp, (List.append_nil _).symm⟩

/-! ## Tags in escaped text -/

/-- Whether the first bracket of a text closes. -/
def closes (s : List Char) : Bool :=
  (s.dropWhile fun c => c != '[' && c != ']').head? == some ']'

theorem closes_cons (hopen : c ≠ '[') (hclose : c ≠ ']') (s : List Char) :
    closes (c :: s) = closes s := by
  unfold closes
  rw [List.dropWhile_cons_of_pos (by simp [hopen, hclose])]

theorem closes_replicate (n : Nat) (s : List Char) :
    closes (List.replicate n '\\' ++ s) = closes s := by
  induction n with
  | zero => rfl
  | succ n ih =>
    rw [List.replicate_succ, List.cons_append, closes_cons (by decide) (by decide), ih]

theorem takeTag?_cons_eq_none_iff :
    takeTag? (c :: s) = none ↔ isTagStart c = false ∨ closes s = false := by
  simp only [takeTag?, closes]
  cases isTagStart c with
  | false => simp
  | true =>
    rw [if_pos rfl]
    split
    · next hdrop => simp [hdrop]
    · next hdrop =>
      refine iff_of_true rfl (.inr ?_)
      cases hs : s.dropWhile fun c => c != '[' && c != ']' with
      | nil => rfl
      | cons d rest =>
        have hne : d ≠ ']' := fun hd => hdrop rest (hd ▸ hs)
        simpa using hne

theorem takeTag?_eq_none_of_head? (h : ∀ c ∈ s.head?, isTagStart c = false) :
    takeTag? s = none := by
  cases s with
  | nil => rfl
  | cons c s => exact takeTag?_cons_eq_none_iff.2 (.inl (h c rfl))

/-- A text that makes no tag of what stands in front of it. -/
structure Apart (t : List Char) : Prop where
  start : ∀ c ∈ t.head?, isTagStart c = false
  unclosed : closes t = false

/-- Neither escaping nor what stands behind a text changes which bracket is its first. -/
theorem closes_escaped_append (ht : closes t = false) (n : Nat) (s : List Char) :
    closes (escaped n s ++ t) = closes s := by
  have hbracket (u : List Char) : closes ('[' :: u) = false := rfl
  induction n, s using split_induction with
  | nil n => rw [escaped_nil, closes_replicate, ht]; rfl
  | slash n s ih => rw [escaped_slash, ih, closes_cons (by decide) (by decide)]
  | tag n s w rest h _ =>
    rw [escaped_tag h, List.append_assoc, closes_replicate, List.cons_append, hbracket, hbracket]
  | bracket n s h _ =>
    rw [escaped_bracket h, List.append_assoc, closes_replicate, List.cons_append, hbracket,
      hbracket]
  | cons n c s hslash hopen ih =>
    rw [escaped_cons hslash hopen, List.append_assoc, closes_replicate, List.cons_append]
    by_cases hclose : c = ']'
    · rw [hclose]
      rfl
    · rw [closes_cons hopen hclose, closes_cons hopen hclose, ih]

/-- Backslashes in front of a text stay in front of it. -/
theorem head?_escaped_succ (n : Nat) (s : List Char) : (escaped (n + 1) s).head? = some '\\' := by
  induction n, s using split_induction with
  | nil n => rw [escaped_nil]; rfl
  | slash n s ih => rw [escaped_slash, ih]
  | tag n s w rest h _ => rw [escaped_tag h]; rfl
  | bracket n s h _ => rw [escaped_bracket h]; rfl
  | cons n c s hslash hopen _ => rw [escaped_cons hslash hopen]; rfl

/-- What is no tag is none when the text behind it is escaped. -/
theorem takeTag?_escaped_append (h : takeTag? s = none) (ht : Apart t) :
    takeTag? (escaped 0 s ++ t) = none := by
  have hstart {u : List Char} {d : Char} (hd : isTagStart d = false) (hu : u.head? = some d) :
      takeTag? (u ++ t) = none := by
    refine takeTag?_eq_none_of_head? fun c hc => ?_
    rw [List.head?_append, hu] at hc
    obtain rfl := Option.some.inj hc
    exact hd
  cases s with
  | nil =>
    rw [escaped_nil]
    exact takeTag?_eq_none_of_head? ht.start
  | cons c s =>
    by_cases hslash : c = '\\'
    · subst hslash
      rw [escaped_slash]
      exact hstart (by decide) (head?_escaped_succ 0 s)
    · by_cases hopen : c = '['
      · subst hopen
        cases htag : takeTag? s with
        | none => rw [escaped_bracket htag]; exact hstart (by decide) rfl
        | some found => rw [escaped_tag htag]; exact hstart (by decide) rfl
      · rw [escaped_cons hslash hopen]
        refine takeTag?_cons_eq_none_iff.2 ((takeTag?_cons_eq_none_iff.1 h).imp_right fun hs => ?_)
        exact (closes_escaped_append ht.unclosed 0 s).trans hs

/-! ## Pieces of escaped text -/

/-- A piece that is shown as it is. -/
def Piece.IsText : Piece → Prop
  | .plain _ => True
  | .tag n _ => n % 2 = 1

/-- All pieces of an escaped text are shown, and what stands behind it is read on. -/
theorem split_escaped_append (ht : Apart t) (stretch : List Char) (n : Nat) (s : List Char) :
    ∃ ps last k, split stretch 0 (escaped n s ++ t) = ps ++ split last k t ∧
      ∀ p ∈ ps, p.IsText := by
  induction n, s using split_induction generalizing stretch with
  | nil n =>
    rw [escaped_nil, split_replicate]
    exact ⟨[], stretch, 0 + n, rfl, List.forall_mem_nil _⟩
  | slash n s ih =>
    rw [escaped_slash]
    exact ih stretch
  | tag n s w rest h ih =>
    have hodd : (2 * n + 1) % 2 = 1 := Nat.mul_add_mod 2 n 1
    obtain ⟨ps, last, k, hps, htext⟩ := ih []
    refine ⟨.plain stretch.reverse :: .tag (2 * n + 1) w :: ps, last, k, ?_,
      List.forall_mem_cons.2 ⟨trivial, List.forall_mem_cons.2 ⟨hodd, htext⟩⟩⟩
    rw [escaped_tag h, List.append_assoc, split_replicate, Nat.zero_add, List.cons_append,
      List.append_assoc, List.cons_append, split_tag ((isTag_of_takeTag? h).takeTag? _), hps]
    rfl
  | bracket n s h ih =>
    rw [escaped_bracket h, List.append_assoc, List.cons_append, split_replicate,
      split_bracket (takeTag?_escaped_append h ht)]
    exact ih _
  | cons n c s hslash hopen ih =>
    rw [escaped_cons hslash hopen, List.append_assoc, List.cons_append, split_replicate,
      split_cons hslash hopen]
    exact ih _

theorem foldlM_isText {ps : List Piece} (h : ∀ p ∈ ps, p.IsText) (shown : Shown) :
    ∃ text, ps.foldlM Shown.add shown = .ok { shown with text } := by
  induction ps generalizing shown with
  | nil => exact ⟨shown.text, rfl⟩
  | cons p ps ih =>
    obtain ⟨hp, hps⟩ := List.forall_mem_cons.1 h
    obtain ⟨text, hadd⟩ : ∃ text, shown.add p = .ok { shown with text } := by
      cases p with
      | plain s => exact ⟨_, rfl⟩
      | tag n w =>
        have hodd : n % 2 = 1 := hp
        exact ⟨_, if_pos hodd⟩
    rw [List.foldlM_cons, hadd, ok_bind]
    exact ih hps _

/-! ## Drawing -/

/-- A text behind backslashes can be drawn while some tags are open, whatever stretch stands
in front of it. -/
def Draws (opened : List Tag) (n : Nat) (s : List Char) : Prop :=
  ∀ stretch shown, shown.opened = opened → shown.fault = none →
    ∃ shown', (split stretch n s).foldlM Shown.add shown = .ok shown' ∧ shown'.fault = none

/-- The name of a style that is written as it is. -/
structure IsStyle (w : String) : Prop where
  isTag : IsTag w.toList
  unslashed : w.toList.head? ≠ some '/'
  unassigned : ∀ c ∈ w.toList, (c != '=') = true
  named : Terminal.Style.nameOf w.toList = .ok w
  trimmed : Text.trim w.toList = w.toList
  visible : Text.isBlankText w.toList = false

variable {opened : List Tag} {w : String}

theorem draws_nil (opened : List Tag) (n : Nat) : Draws opened n [] := by
  intro stretch shown _ hfault
  rw [split_nil]
  exact ⟨_, rfl, hfault⟩

theorem Draws.plain (h : Draws opened 0 s) (hu : ∀ c ∈ u, c ≠ '\\' ∧ c ≠ '[') :
    Draws opened 0 (u ++ s) := by
  intro stretch shown
  rw [split_plain hu]
  exact h _ shown

theorem IsStyle.takeWhile (h : IsStyle w) : w.toList.takeWhile (· != '=') = w.toList :=
  List.takeWhile_eq_self_iff.2 h.unassigned

theorem IsStyle.read (h : IsStyle w) : Tag.read w.toList = .ok ⟨w, none⟩ := by
  have hdrop : w.toList.dropWhile (· != '=') = [] := List.dropWhile_eq_nil_iff.2 h.unassigned
  unfold Tag.read
  rw [h.takeWhile, h.named, ok_bind, hdrop]
  rfl

/-- The closing tag of a style closes it. -/
theorem IsStyle.close (h : IsStyle w) (opened : List Tag) :
    Markup.close w.toList (⟨w, none⟩ :: opened) = .ok opened := by
  have hbroken : (⟨w, none⟩ : Tag).isBroken = false := Bool.and_false _
  unfold Markup.close
  rw [h.visible, if_neg Bool.false_ne_true, h.trimmed, h.named]
  simp only [Except.map, ok_bind, List.find?_cons, Option.all_some, decide_true, hbroken,
    List.erase_cons_head]
  rfl

theorem IsStyle.isTag_closing (h : IsStyle w) : IsTag ('/' :: w.toList) := by
  obtain ⟨c, rest, hw, hc, hrest⟩ := h.isTag
  refine ⟨'/', w.toList, rfl, rfl, ?_⟩
  rw [hw]
  refine List.forall_mem_cons.2 ⟨?_, hrest⟩
  have hopen : c ≠ '[' := fun heq => by rw [heq] at hc; exact absurd hc (by decide)
  have hclose : c ≠ ']' := fun heq => by rw [heq] at hc; exact absurd hc (by decide)
  simp [hopen, hclose]

/-- The opening tag of a style opens it. -/
theorem Draws.opening (hw : IsStyle w) (h : Draws (⟨w, none⟩ :: opened) 0 s) :
    Draws opened 0 ('[' :: (w.toList ++ ']' :: s)) := by
  intro stretch shown hopened hfault
  have hadd (shown : Shown) : ∃ text, shown.add (.tag 0 w.toList) =
      .ok ⟨text, ⟨w, none⟩ :: shown.opened, shown.fault⟩ := by
    refine ⟨shown.text ++ [], ?_⟩
    unfold Shown.add
    dsimp only
    rw [if_neg (by decide), hw.takeWhile]
    split
    · next name hname => exact absurd (congrArg List.head? hname) hw.unslashed
    · rw [hw.read, ok_bind]
      cases shown.fault <;> rfl
  obtain ⟨text, htag⟩ := hadd { shown with text := shown.text ++ unescape stretch.reverse }
  rw [split_tag (hw.isTag.takeTag? s), List.foldlM_cons, Shown.add, ok_bind, List.foldlM_cons, htag,
    ok_bind]
  exact h [] _ (congrArg (List.cons _) hopened) hfault

/-- Where a style is open, its closing tag ends it, or is shown behind a backslash. -/
theorem Draws.closing (hw : IsStyle w) (h : Draws opened 0 s)
    (hopen : Draws (⟨w, none⟩ :: opened) 0 s) (n : Nat) :
    Draws (⟨w, none⟩ :: opened) n ('[' :: '/' :: (w.toList ++ ']' :: s)) := by
  intro stretch shown hopened hfault
  have htag := hw.isTag_closing.takeTag? s
  rw [List.cons_append] at htag
  rw [split_tag htag, List.foldlM_cons, Shown.add, ok_bind, List.foldlM_cons, Shown.add]
  by_cases hodd : n % 2 = 1
  · rw [if_pos hodd, ok_bind]
    exact hopen [] _ hopened hfault
  · have hassigned : ('/' :: w.toList).takeWhile (· != '=') = '/' :: w.toList :=
      List.takeWhile_eq_self_iff.2 (List.forall_mem_cons.2 ⟨rfl, hw.unassigned⟩)
    rw [if_neg hodd, hassigned]
    simp only [hopened, hw.close, ok_bind]
    exact h [] _ rfl hfault

theorem Draws.escape (h : ∀ n, Draws opened n t) (ht : Apart t) (message : String) :
    Draws opened 0 ((escape message).toList ++ t) := by
  intro stretch shown hopened hfault
  obtain ⟨extra, hextra, hescape⟩ := toList_escape message
  have hapart : Apart (extra ++ t) ∧
      ∀ last k, ∃ k', split last k (extra ++ t) = split last k' t := by
    rcases List.mem_cons.1 hextra with rfl | hextra
    · exact ⟨ht, fun last k => ⟨k, rfl⟩⟩
    · obtain rfl := List.mem_singleton.1 hextra
      refine ⟨⟨fun c hc => ?_, ?_⟩, fun last k => ⟨k + 1, split_slash last k t⟩⟩
      · obtain rfl := Option.some.inj hc
        rfl
      · exact (closes_cons (by decide) (by decide) t).trans ht.unclosed
  obtain ⟨ps, last, k, hps, htext⟩ := split_escaped_append hapart.1 stretch 0 message.toList
  obtain ⟨text, hfold⟩ := foldlM_isText htext shown
  obtain ⟨k', hk'⟩ := hapart.2 last k
  rw [hescape, List.append_assoc, hps, List.foldlM_append, hfold, ok_bind, hk']
  exact h k' last _ hopened hfault

/-- What can be drawn from its beginning is. -/
theorem Draws.render {markup : String} (h : Draws [] 0 markup.toList) :
    ∃ drawn, Markup.render markup = .ok drawn := by
  have hshow : ∃ text, show? markup = .ok (text, none) := by
    unfold show?
    split
    · exact ⟨_, rfl⟩
    · obtain ⟨shown, hshown, hfault⟩ := h [] ⟨[], [], none⟩ rfl rfl
      rw [pieces, hshown, ok_bind, ← hfault]
      exact ⟨_, rfl⟩
  obtain ⟨text, htext⟩ := hshow
  unfold Markup.render
  rw [htext]
  exact ⟨text, rfl⟩

/-! ## Messages -/

/-- The styles of messages are written as they are. -/
theorem isStyle_of_mem (h : w ∈ ["info", "success", "warning", "error"]) : IsStyle w := by
  have hall : ∀ w ∈ ["info", "success", "warning", "error"],
      w.toList.head?.any isTagStart ∧ (w.toList.tail.all fun c => c != '[' && c != ']') ∧
        w.toList.head? ≠ some '/' ∧ (w.toList.all (· != '=')) ∧
        (Terminal.Style.nameOf w.toList).toOption = some w ∧ Text.trim w.toList = w.toList ∧
        Text.isBlankText w.toList = false := by
    decide +kernel
  obtain ⟨hstart, htail, hslash, hassigned, hnamed, htrimmed, hvisible⟩ := hall w h
  refine ⟨?_, hslash, List.all_eq_true.1 hassigned, eq_ok_of_toOption hnamed, htrimmed, hvisible⟩
  cases hw : w.toList with
  | nil => rw [hw] at hstart; cases hstart
  | cons c rest =>
    rw [hw] at hstart htail
    exact ⟨c, rest, rfl, hstart, List.all_eq_true.1 htail⟩

end FieldedSearch.Markup

namespace FieldedSearch.CommandLine.Transcript

open Markup

variable {w : String} {t : Transcript}

theorem toList_tagged (w message : String) : (tagged w message).toList =
    '[' :: (w.toList ++ ']' :: (message.toList ++ '[' :: '/' :: (w.toList ++ [']']))) := by
  have hopen : "[".toList = ['['] := rfl
  have hend : "]".toList = [']'] := rfl
  have hclose : "[/".toList = ['[', '/'] := rfl
  simp only [tagged, String.toList_append, hopen, hend, hclose, List.append_assoc,
    List.cons_append, List.nil_append]

/-- An escaped message between the tags of a style can be drawn. -/
theorem render_tagged_escape (hw : IsStyle w) (message : String) :
    ∃ drawn, render (tagged w (escape message)) = .ok drawn := by
  have hclosing (n : Nat) : Draws [⟨w, none⟩] n ('[' :: '/' :: (w.toList ++ [']'])) :=
    Draws.closing hw (draws_nil _ 0) (draws_nil _ 0) n
  have hapart : Apart ('[' :: '/' :: (w.toList ++ [']'])) :=
    ⟨fun c hc => Option.some.inj hc ▸ rfl, rfl⟩
  apply Draws.render
  rw [toList_tagged]
  exact Draws.opening hw (Draws.escape hclosing hapart message)

/-- An escaped message behind a label between the tags of a style, perhaps with blanks in front
of it, can be drawn. -/
theorem render_label_escape (hw : IsStyle w) (margin label : String)
    (hmargin : margin.toList.all fun c => c != '\\' && c != '[')
    (hlabel : label.toList.all fun c => c != '\\' && c != '[') (message : String) :
    ∃ drawn, render (margin ++ tagged w label ++ " " ++ escape message) = .ok drawn := by
  have hspace : " ".toList = [' '] := rfl
  have hplain {s : List Char} (h : s.all fun c => c != '\\' && c != '[') :
      ∀ c ∈ s, c ≠ '\\' ∧ c ≠ '[' := by
    simpa using h
  have hmessage (opened : List Tag) : Draws opened 0 (' ' :: (escape message).toList) := by
    have h := Draws.escape (draws_nil opened) ⟨nofun, rfl⟩ message
    rw [List.append_nil] at h
    exact h.plain (u := [' ']) (hplain rfl)
  apply Draws.render
  rw [String.toList_append, String.toList_append, String.toList_append, hspace, toList_tagged]
  simp only [List.append_assoc, List.cons_append, List.nil_append]
  have hlabelled := Draws.plain (Draws.closing hw (hmessage []) (hmessage _) 0) (hplain hlabel)
  exact Draws.plain (Draws.opening hw hlabelled) (hplain hmargin)

theorem ending_write (t : Transcript) (s : String) : (t.write s).ending = t.ending := by
  unfold write
  split <;> rfl

theorem ending_complain (t : Transcript) (s : String) : (t.complain s).ending = t.ending := by
  unfold complain
  split <;> rfl

theorem ending_writeMarkup {markup drawn : String} (h : render markup = .ok drawn)
    (t : Transcript) : (t.writeMarkup markup).ending = t.ending := by
  unfold writeMarkup
  rw [h]
  exact ending_write t _

theorem ending_complainMarkup {markup drawn : String} (h : render markup = .ok drawn)
    (t : Transcript) : (t.complainMarkup markup).ending = t.ending := by
  unfold complainMarkup
  rw [h]
  exact ending_complain t _

/-- No message ends a run, whatever it says. -/
theorem ending_writeTagged (hw : w ∈ ["info", "success", "warning", "error"]) (t : Transcript)
    (message : String) : (t.writeMarkup (tagged w (escape message))).ending = t.ending := by
  obtain ⟨drawn, hdrawn⟩ := render_tagged_escape (isStyle_of_mem hw) message
  exact ending_writeMarkup hdrawn t

theorem ending_complainTagged (hw : w ∈ ["info", "success", "warning", "error"])
    (margin label : String) (hmargin : margin.toList.all fun c => c != '\\' && c != '[')
    (hlabel : label.toList.all fun c => c != '\\' && c != '[') (t : Transcript)
    (message : String) :
    (t.complainMarkup (margin ++ tagged w label ++ " " ++ escape message)).ending = t.ending := by
  obtain ⟨drawn, hdrawn⟩ :=
    render_label_escape (isStyle_of_mem hw) margin label hmargin hlabel message
  exact ending_complainMarkup hdrawn t

theorem ending_info (t : Transcript) (message : String) : (t.info message).ending = t.ending :=
  ending_writeTagged (by decide) t message

theorem ending_warning (t : Transcript) (message : String) :
    (t.warning message).ending = t.ending :=
  ending_complainTagged (by decide) "" "Warning:" rfl rfl t message

theorem ending_error (t : Transcript) (message : String) : (t.error message).ending = t.ending :=
  ending_complainTagged (by decide) "" "Error:" rfl rfl t message

end FieldedSearch.CommandLine.Transcript
