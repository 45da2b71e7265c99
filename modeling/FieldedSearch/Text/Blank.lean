-- SUMMARY: Unicode white space, and trimming a text of it at both ends.

/-!
# Blank characters

White space is the set of characters with the Unicode property `White_Space`
together with the four information separators. Search strings are cut at these
characters, and values and keywords are trimmed of them.
-/

namespace FieldedSearch.Text

/-- Tabs and line breaks, the information separators, the spaces of every
width, and the line and paragraph separators. A zero-width space is none. -/
def isBlank (c : Char) : Bool :=
  let n := c.toNat
  (9 ≤ n && n ≤ 13) || (28 ≤ n && n ≤ 32) || n == 0x85 || n == 0xA0 || n == 0x1680 ||
    (0x2000 ≤ n && n ≤ 0x200A) || n == 0x2028 || n == 0x2029 || n == 0x202F || n == 0x205F ||
    n == 0x3000

def trimStart (s : List Char) : List Char := s.dropWhile isBlank

def trimEnd (s : List Char) : List Char := (s.reverse.dropWhile isBlank).reverse

def trim (s : List Char) : List Char := trimEnd (trimStart s)

/-- A text of blanks only, the empty one included. -/
def isBlankText (s : List Char) : Bool := s.all isBlank

-- ---------------------------------------------------------------------------
-- Facts
-- ---------------------------------------------------------------------------

@[simp] theorem trim_nil : trim [] = [] := rfl

end FieldedSearch.Text
