-- SUMMARY: Names and values as the query of a URL.
import FieldedSearch.Text.Hexadecimal

/-!
# URL-encoded parameters

Letters, digits and four marks stand for themselves and a space is written as a plus
sign. Every other character is written as its octets in UTF-8, each with a percent
sign and two hexadecimal digits in upper case.
-/

namespace FieldedSearch.Text

/-- The characters that stand for themselves. -/
def isUnreserved (c : Char) : Bool :=
  ('a' ≤ c && c ≤ 'z') || ('A' ≤ c && c ≤ 'Z') || ('0' ≤ c && c ≤ '9') ||
    c == '_' || c == '.' || c == '-' || c == '~'

/-- An octet as a percent sign and two digits. -/
def percent (octet : UInt8) : List Char := '%' :: (hex 2 octet.toNat).map Char.toUpper

def urlChar (c : Char) : List Char :=
  if isUnreserved c then [c]
  else if c = ' ' then ['+']
  else (String.utf8EncodeChar c).flatMap percent

def urlText (s : String) : String := String.ofList (s.toList.flatMap urlChar)

/-- Parameters as `name=value`, joined by `&`. -/
def urlEncoded (parameters : List (String × String)) : String :=
  "&".intercalate (parameters.map fun (name, value) => urlText name ++ "=" ++ urlText value)

end FieldedSearch.Text
