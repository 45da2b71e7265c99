-- SUMMARY: A text in quotes, as messages and nested values show it.
import FieldedSearch.Text.Hexadecimal
import FieldedSearch.Text.Printable

/-!
# Quoted texts

A quoted text stands between single quotes, or between double quotes if it holds
a single quote and no double quote. The backslash and the quote around it are
escaped, line breaks and tabs have short escapes, and every other unprintable
character is written by its number in hexadecimal.
-/

namespace FieldedSearch.Text

/-- One character inside quotes. -/
def quotedChar (quote c : Char) : List Char :=
  let n := c.toNat
  if c = quote ∨ c = '\\' then ['\\', c]
  else if c = '\t' then ['\\', 't']
  else if c = '\n' then ['\\', 'n']
  else if c = '\r' then ['\\', 'r']
  else if isPrintable c then [c]
  else if n < 0x100 then '\\' :: 'x' :: hex 2 n
  else if n < 0x10000 then '\\' :: 'u' :: hex 4 n
  else '\\' :: 'U' :: hex 8 n

/-- The quote that a text is put in. -/
def quoteFor (s : List Char) : Char := if '\'' ∈ s ∧ '"' ∉ s then '"' else '\''

def quoted (s : List Char) : List Char :=
  let q := quoteFor s
  q :: s.flatMap (quotedChar q) ++ [q]

end FieldedSearch.Text
