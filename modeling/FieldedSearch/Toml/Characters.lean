-- SUMMARY: The classes of characters that TOML tells apart.
import FieldedSearch.Text.DecimalDigit

/-!
# Characters of TOML
-/

namespace FieldedSearch.Toml

/-- Space and tab. -/
def isBlank (c : Char) : Bool := c == ' ' || c == '\t'

/-- Space, tab and line break. -/
def isBlankOrBreak (c : Char) : Bool := isBlank c || c == '\n'

/-- The characters that may stand neither in a comment nor on a line of a string. -/
def isControl (c : Char) : Bool := (c.toNat < 0x20 && c != '\t') || c.toNat == 0x7F

/-- The characters of a name without quotes. -/
def isBare (c : Char) : Bool :=
  Text.isAsciiDigit c || ('a' ≤ c && c ≤ 'z') || ('A' ≤ c && c ≤ 'Z') || c == '-' || c == '_'

end FieldedSearch.Toml
