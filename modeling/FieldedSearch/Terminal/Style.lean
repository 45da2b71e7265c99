-- SUMMARY: Styles of text on a terminal, and the one name of each.
import FieldedSearch.Terminal.Color
import FieldedSearch.Text.Blank

/-!
# Styles

A style is written as words: attributes, which `not` turns off, a color, `on` with
another color for the background, and `link` with an address. Of what is said twice the
last word counts. However it is written, a style has one name, in which attributes come
first and in a fixed order.
-/

namespace FieldedSearch.Terminal

/-- The attributes of a text in the order in which a name lists them. -/
def attributeNames : List String := ["bold", "dim", "italic", "underline", "blink", "blink2",
  "reverse", "conceal", "strike", "underline2", "frame", "encircle", "overline"]

/-- The short names of attributes. -/
def shortNames : List (String × String) :=
  [("b", "bold"), ("i", "italic"), ("u", "underline"), ("uu", "underline2"), ("d", "dim"),
    ("r", "reverse"), ("c", "conceal"), ("s", "strike"), ("o", "overline")]

def attribute? (word : String) : Option String :=
  if attributeNames.contains word then some word else shortNames.lookup word

/-- A style, as far as anything is said. -/
structure Style where
  attributes : List (String × Bool)
  color : Option String
  background : Option String
  link : Option String
deriving DecidableEq, Repr

namespace Style

def plain : Style := ⟨[], none, none, none⟩

def setAttribute (s : Style) (name : String) (isOn : Bool) : Style :=
  { s with attributes := Entries.put name isOn s.attributes }

/-- What words add to a style; none if they are not the words of one. -/
def addWords (s : Style) : List (List Char) → Except Failure (Option Style)
  | [] => .ok (some s)
  | word :: rest =>
    let name := String.ofList (Text.lower word)
    if name = "on" then
      match rest with
      | [] => .ok none
      | color :: rest => do
        match ← colorName? color with
        | some color => addWords { s with background := some color } rest
        | none => return none
    else if name = "not" then
      match rest with
      | [] => .ok none
      | word :: rest =>
        match attribute? (String.ofList word) with
        | some known => addWords (s.setAttribute known false) rest
        | none => .ok none
    else if name = "link" then
      match rest with
      | [] => .ok none
      | address :: rest => addWords { s with link := some (String.ofList address) } rest
    else
      match attribute? name with
      | some known => addWords (s.setAttribute known true) rest
      | none => do
        match ← colorName? word with
        | some color => addWords { s with color := some color } rest
        | none => return none

/-- The words of a text, behind a word (in reverse) that is begun. -/
def wordsOf (word : List Char) : List Char → List (List Char)
  | [] => if word.isEmpty then [] else [word.reverse]
  | c :: s =>
    if Text.isBlank c then (if word.isEmpty then wordsOf [] s else word.reverse :: wordsOf [] s)
    else wordsOf (c :: word) s

/-- The style that a text describes, if it does. -/
def read (s : List Char) : Except Failure (Option Style) :=
  if Text.trim s = "none".toList then .ok (some plain) else plain.addWords (wordsOf [] s)

/-- The word for an attribute that is on or off. -/
def attributeText (s : Style) (name : String) : List String :=
  match s.attributes.lookup name with
  | some true => [name]
  | some false => ["not " ++ name]
  | none => []

def name (s : Style) : String :=
  let words := attributeNames.flatMap s.attributeText ++ s.color.elim [] (fun color => [color]) ++
    s.background.elim [] (fun color => ["on " ++ color]) ++
    s.link.elim [] (fun address => ["link " ++ address])
  if words.isEmpty then "none" else " ".intercalate words

/-- The name of what a text describes; a text that describes no style is its own name, in
lower case. -/
def nameOf (s : List Char) : Except Failure String := do
  match ← read s with
  | some style => return style.name
  | none => return String.ofList (Text.lower (Text.trim s))

end Style

end FieldedSearch.Terminal
