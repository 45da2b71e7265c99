-- SUMMARY: How much of two texts agrees, and which of several words come close to a given one.

/-!
# Similar words

Two texts agree in the longest stretch that they have in common and, by the same rule,
in what stands in front of it and behind it. Of two stretches of equal length the one
that begins earlier in the first text counts, then the one earlier in the second. Words
are close if at least six tenths of their characters agree.
-/

namespace FieldedSearch.Text

/-- How many characters two texts have in common at their heads. -/
def commonHead : List Char → List Char → Nat
  | a :: s, b :: t => if a = b then commonHead s t + 1 else 0
  | _, _ => 0

/-- A stretch that two texts have in common: where it begins in each, and its length. -/
structure Stretch where
  first : Nat
  second : Nat
  size : Nat
deriving DecidableEq, Repr

/-- The longest stretch at the head of one text that stands somewhere in another. -/
def longestHead (s : List Char) : List Char → Stretch
  | [] => ⟨0, 0, 0⟩
  | b :: t =>
    let here := commonHead s (b :: t)
    let later := longestHead s t
    if later.size ≤ here then ⟨0, 0, here⟩ else { later with second := later.second + 1 }

/-- The longest stretch that two texts have in common. -/
def longestStretch : List Char → List Char → Stretch
  | [], _ => ⟨0, 0, 0⟩
  | a :: s, t =>
    let here := longestHead (a :: s) t
    let later := longestStretch s t
    if later.size ≤ here.size then { here with first := 0 }
    else { later with first := later.first + 1 }

theorem first_longestStretch_lt {s t : List Char} (h : 0 < (longestStretch s t).size) :
    (longestStretch s t).first < s.length := by
  induction s with
  | nil => simp [longestStretch] at h
  | cons a s ih =>
    simp only [longestStretch] at h ⊢
    split
    · simp
    · next hlt =>
      have := ih (by omega)
      simp only [List.length_cons]
      omega

/-- How many characters of two texts agree. -/
def agreement (s t : List Char) : Nat :=
  let common := longestStretch s t
  if h : 0 < common.size then
    have : common.first < s.length := first_longestStretch_lt h
    agreement (s.take common.first) (t.take common.second) + common.size +
      agreement (s.drop (common.first + common.size)) (t.drop (common.second + common.size))
  else 0
termination_by s.length
decreasing_by
  all_goals
    simp only [List.length_take, List.length_drop, common] at *
    omega

/-- Whether enough of two words agrees. No more can agree than the shorter one has. -/
def isClose (s t : List Char) : Bool :=
  let enough := fun n => 3 * (s.length + t.length) ≤ 10 * n
  enough (min s.length t.length) && enough (agreement s t)

/-- Whether one word is no farther from a given one than another: it agrees in a larger
part, or in an equal part and comes later in the order of texts. -/
def isNearer (word a b : String) : Bool :=
  let part := fun (s : String) => agreement s.toList word.toList
  let sizes := fun (s : String) => s.length + word.length
  let left := part a * sizes b
  let right := part b * sizes a
  right < left || (left == right && decide (b ≤ a))

/-- How many close words are given at most. -/
def closeLimit : Nat := 3

/-- The words that are closest to a given one, in the order of texts. -/
def closeWords (word : String) (words : List String) : List String :=
  let close := words.filter fun w => isClose w.toList word.toList
  ((close.mergeSort (isNearer word)).take closeLimit).mergeSort fun a b => decide (a ≤ b)

end FieldedSearch.Text
