-- SUMMARY: Texts taken apart into items and what stands between them, and when there is only one way to do so.

/-!
# Decompositions

A text is taken apart into items and the texts between them. A grammar says how an item is
written, where one stands, and which texts hold the beginning of none. If no text between
items reaches into an item, and no two items can stand in one place, then a text has at most
one decomposition (`Grammar.Unambiguous.unique`). Groups and terms are the items of two such
grammars.
-/

namespace FieldedSearch.Query

variable {α : Type}

/-- Texts with an item between each two. -/
inductive Decomposition (α : Type)
  | last (u : List Char)
  | next (u : List Char) (k : α) (rest : Decomposition α)

namespace Decomposition

/-- The items, in order. -/
def items : Decomposition α → List α
  | last _ => []
  | next _ k rest => k :: rest.items

/-- The texts between the items, put together. -/
def between : Decomposition α → List Char
  | last u => u
  | next u _ rest => u ++ rest.between

/-- The whole text, if items are written in a given way. -/
def text (write : α → List Char) : Decomposition α → List Char
  | last u => u
  | next u k rest => u ++ (write k ++ rest.text write)

/-- The same with a text in front. -/
def prepend (w : List Char) : Decomposition α → Decomposition α
  | last u => last (w ++ u)
  | next u k rest => next (w ++ u) k rest

@[simp] theorem items_prepend (w : List Char) (d : Decomposition α) :
    (d.prepend w).items = d.items := by
  cases d <;> rfl

@[simp] theorem between_prepend (w : List Char) (d : Decomposition α) :
    (d.prepend w).between = w ++ d.between := by
  cases d <;> simp [prepend, between]

@[simp] theorem text_prepend (write : α → List Char) (w : List Char) (d : Decomposition α) :
    (d.prepend w).text write = w ++ d.text write := by
  cases d <;> simp [prepend, text]

end Decomposition

/-- What the items of a text are, and what may stand between them. -/
structure Grammar (α : Type) where
  /-- How an item is written. -/
  write : α → List Char
  /-- Behind one text and in front of another, this is an item. -/
  Item : List Char → α → List Char → Prop
  /-- Within one text no item begins while the other follows it. -/
  Loose : List Char → List Char → Prop

namespace Grammar

variable {G : Grammar α} {d d' : Decomposition α} {s u u' : List Char} {k k' : α}

/-- The items of a decomposition are items where they stand, and none begins elsewhere. -/
def Correct (G : Grammar α) : Decomposition α → Prop
  | .last u => G.Loose u []
  | .next u k rest =>
    G.Loose u (G.write k ++ rest.text G.write) ∧ G.Item u k (rest.text G.write) ∧ G.Correct rest

/-- A correct decomposition of a text. -/
def Parses (G : Grammar α) (d : Decomposition α) (s : List Char) : Prop :=
  G.Correct d ∧ d.text G.write = s

/-- Put a text in front of a decomposition, if that makes no item and unmakes none. -/
theorem Parses.prepend {w : List Char} (hd : G.Parses d s)
    (hloose : ∀ u t, s = u ++ t → G.Loose u t → G.Loose (w ++ u) t)
    (hitem : ∀ u k t, s = u ++ (G.write k ++ t) → G.Item u k t → G.Item (w ++ u) k t) :
    G.Parses (d.prepend w) (w ++ s) := by
  obtain ⟨hcorrect, rfl⟩ := hd
  refine ⟨?_, Decomposition.text_prepend _ _ _⟩
  cases d with
  | last u => exact hloose u [] (List.append_nil u).symm hcorrect
  | next u k rest =>
    obtain ⟨hu, hk, hrest⟩ := hcorrect
    exact ⟨hloose u _ rfl hu, hitem u k _ rfl hk, hrest⟩

/-- Put an item in front of a decomposition. -/
theorem Parses.next (hd : G.Parses d s) (hloose : G.Loose [] (G.write k ++ s))
    (hk : G.Item [] k s) : G.Parses (.next [] k d) (G.write k ++ s) := by
  obtain ⟨hcorrect, rfl⟩ := hd
  exact ⟨⟨hloose, hk, hcorrect⟩, rfl⟩

/-- What follows a text between items: nothing, or an item. -/
inductive Resumes (G : Grammar α) (u : List Char) : List Char → Prop
  | stop : Resumes G u []
  | item (k : α) (s : List Char) : G.Item u k s → Resumes G u (G.write k ++ s)

/-- An item leaves no choice: where one stands, a loose text has to end, and no other one
can stand there. -/
structure Unambiguous (G : Grammar α) : Prop where
  write_ne_nil : ∀ {u k s}, G.Item u k s → G.write k ≠ []
  length_le : ∀ {u k s u' t}, G.Item u k s → G.Loose u' t → G.Resumes u' t →
    u ++ (G.write k ++ s) = u' ++ t → u'.length ≤ u.length
  item : ∀ {u k s k' s'}, G.Item u k s → G.Item u k' s' →
    G.write k ++ s = G.write k' ++ s' → k = k' ∧ s = s'

/-- A text with an item in it is not loose. -/
private theorem Unambiguous.not_loose (h : G.Unambiguous) (hk : G.Item u k s) :
    ¬ G.Loose (u ++ (G.write k ++ s)) [] := by
  intro hloose
  have hle := h.length_le hk hloose .stop (List.append_nil _).symm
  have hpos := List.length_pos_iff.2 (h.write_ne_nil hk)
  rw [List.length_append, List.length_append] at hle
  omega

/-- Two correct decompositions of one text begin with the same text between items. -/
private theorem Unambiguous.eq_of_next (h : G.Unambiguous) {s' : List Char}
    (hu : G.Loose u (G.write k ++ s)) (hk : G.Item u k s)
    (hu' : G.Loose u' (G.write k' ++ s')) (hk' : G.Item u' k' s')
    (htext : u ++ (G.write k ++ s) = u' ++ (G.write k' ++ s')) : u = u' ∧ k = k' ∧ s = s' := by
  have hle := h.length_le hk' hu (.item k s hk) htext.symm
  have hle' := h.length_le hk hu' (.item k' s' hk') htext
  obtain ⟨rfl, hrest⟩ := List.append_inj htext (Nat.le_antisymm hle hle')
  exact ⟨rfl, h.item hk hk' hrest⟩

theorem Unambiguous.eq_of_text (h : G.Unambiguous) (hd : G.Correct d) (hd' : G.Correct d')
    (htext : d.text G.write = d'.text G.write) : d = d' := by
  induction d generalizing d' with
  | last u =>
    cases d' with
    | last u' => exact congrArg Decomposition.last htext
    | next u' k' rest' =>
      obtain rfl : u = u' ++ (G.write k' ++ rest'.text G.write) := htext
      exact absurd hd (h.not_loose hd'.2.1)
  | next u k rest ih =>
    obtain ⟨hu, hk, hrest⟩ := hd
    cases d' with
    | last u' =>
      obtain rfl : u ++ (G.write k ++ rest.text G.write) = u' := htext
      exact absurd hd' (h.not_loose hk)
    | next u' k' rest' =>
      obtain ⟨hu', hk', hrest'⟩ := hd'
      obtain ⟨rfl, rfl, htail⟩ := h.eq_of_next hu hk hu' hk' htext
      rw [ih hrest hrest' htail]

/-- A text has at most one correct decomposition. -/
theorem Unambiguous.unique (h : G.Unambiguous) (hd : G.Parses d s) (hd' : G.Parses d' s) :
    d' = d :=
  h.eq_of_text hd'.1 hd.1 (hd'.2.trans hd.2.symm)

end Grammar

end FieldedSearch.Query
