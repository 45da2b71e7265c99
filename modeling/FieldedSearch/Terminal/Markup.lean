-- SUMMARY: Text with style tags: escaping a text, and what is shown of a marked-up one.
import FieldedSearch.Terminal.Handler
import FieldedSearch.Terminal.Style

/-!
# Markup

A tag stands in brackets and begins with a small letter, `#`, `@` or, if it closes
another one, with `/`. A backslash in front of a tag makes it text; two backslashes
are one. Tags are not shown, but a closing tag needs an open one of its name, or just
an open one if it has no name. The name of a tag that describes a style is that of the
style. Behind `=` a tag has parameters: what they add to its style matters only when the
text is drawn, but those of an event handler have to be readable when it is closed.
-/

namespace FieldedSearch.Markup

/-- A stretch of text without tags, or a tag with the backslashes in front of it. -/
inductive Piece
  | plain (s : List Char)
  | tag (slashes : Nat) (s : List Char)
deriving DecidableEq, Repr

def isTagStart (c : Char) : Bool := ('a' ≤ c && c ≤ 'z') || c == '#' || c == '/' || c == '@'

/-- A tag behind its opening bracket, and what follows its closing one. -/
def takeTag? : List Char → Option (List Char × List Char)
  | [] => none
  | c :: s =>
    if isTagStart c then
      match s.dropWhile fun c => c != '[' && c != ']' with
      | ']' :: rest => some (c :: s.takeWhile fun c => c != '[' && c != ']', rest)
      | _ => none
    else none

theorem length_of_takeTag? {s tag rest : List Char} (h : takeTag? s = some (tag, rest)) :
    rest.length < s.length := by
  cases s with
  | nil => simp [takeTag?] at h
  | cons c s =>
    simp only [takeTag?] at h
    split at h
    · split at h
      · next r hd =>
        have := (List.dropWhile_sublist (l := s) fun c => c != '[' && c != ']').length_le
        simp_all
        omega
      · simp at h
    · simp at h

/-- The pieces of a text, behind a stretch (in reverse) and backslashes. -/
def split (stretch : List Char) (slashes : Nat) : List Char → List Piece
  | [] => [.plain (stretch.reverse ++ List.replicate slashes '\\')]
  | c :: s =>
    if c = '\\' then split stretch (slashes + 1) s
    else if c = '[' then
      match h : takeTag? s with
      | some (tag, rest) =>
        have := length_of_takeTag? h
        .plain stretch.reverse :: .tag slashes tag :: split [] 0 rest
      | none => split (c :: (List.replicate slashes '\\' ++ stretch)) 0 s
    else split (c :: (List.replicate slashes '\\' ++ stretch)) 0 s
termination_by s => s.length
decreasing_by all_goals simp only [List.length_cons]; omega

def pieces (s : List Char) : List Piece := split [] 0 s

-- ---------------------------------------------------------------------------
-- Escaping
-- ---------------------------------------------------------------------------

private def slashes (n : Nat) : List Char := List.replicate n '\\'

/-- A piece of which every tag is text. -/
def Piece.escape : Piece → List Char
  | plain s => s
  | tag n s => slashes (2 * n + 1) ++ '[' :: s ++ [']']

/-- A text so marked up that its tags are shown. A lone backslash at the end is
doubled. -/
def escape (s : String) : String :=
  let escaped := (pieces s.toList).flatMap Piece.escape
  String.ofList <| match escaped.reverse with
    | ['\\'] => escaped ++ ['\\']
    | '\\' :: c :: _ => if c = '\\' then escaped else escaped ++ ['\\']
    | _ => escaped

-- ---------------------------------------------------------------------------
-- Showing
-- ---------------------------------------------------------------------------

/-- A stretch without the backslashes in front of opening brackets. -/
def unescape : List Char → List Char
  | [] => []
  | '\\' :: '[' :: s => '[' :: unescape s
  | c :: s => c :: unescape s

/-- A tag that is open: its name, and its parameters if it has any. -/
structure Tag where
  name : String
  parameters : Option (List Char)
deriving DecidableEq, Repr

namespace Tag

/-- The tag that the text of an opening tag describes. -/
def read (s : List Char) : Except Failure Tag := do
  let name ← Terminal.Style.nameOf (s.takeWhile (· != '='))
  return ⟨name, (s.dropWhile (· != '=')).tail?⟩

/-- Whether a tag gives an event a handler. -/
def isHandler (t : Tag) : Bool := t.name.toList.head? = some '@'

/-- The parameters of a handler cannot be read, so that its tag cannot be closed. -/
def isBroken (t : Tag) : Bool :=
  t.isHandler && t.parameters.any fun p => !p.isEmpty && !Terminal.Handler.accepts p

/-- Why a text cannot be drawn in the style of a tag with its parameters, if it cannot. -/
def fault? (t : Tag) : Option Failure :=
  match t.parameters with
  | none => none
  | some p =>
    match Terminal.Style.read (t.name.toList ++ ' ' :: p) with
    | .ok _ => none
    | .error e => some e

end Tag

/-- A text that is shown, with the open tags, the last one first, and the first reason
why it cannot be drawn. -/
structure Shown where
  text : List Char
  opened : List Tag
  fault : Option Failure

/-- Take out the tag that is closed: the last one of a name, or the last one. -/
def close (tag : List Char) (opened : List Tag) : Except Failure (List Tag) := do
  let name ← if Text.isBlankText tag then pure none
    else (Terminal.Style.nameOf (Text.trim tag)).map some
  match opened.find? fun t => name.all (· = t.name) with
  | none => throw (.unopenedTag (String.ofList ('/' :: tag)))
  | some t =>
    if t.isBroken then throw (.brokenHandler t.name) else return opened.erase t

/-- Show one more piece. -/
def Shown.add (shown : Shown) : Piece → Except Failure Shown
  | .plain s => .ok { shown with text := shown.text ++ unescape s }
  | .tag n s =>
    let text := shown.text ++ slashes (n / 2)
    if n % 2 = 1 then .ok { shown with text := text ++ '[' :: s ++ [']'] }
    else
      match s.takeWhile (· != '=') with
      | '/' :: name => do return { shown with text, opened := ← close name shown.opened }
      | _ => do
        let tag ← Tag.read s
        return ⟨text, tag :: shown.opened, shown.fault <|> tag.fault?⟩

/-- Characters that are never shown: the bell and those that move the cursor, other than
the tab and the line feed. -/
def isHidden (c : Char) : Bool :=
  c == '\x07' || c == '\x08' || c == '\x0b' || c == '\x0c' || c == '\r'

/-- What is shown of a marked-up text, and why it cannot be drawn if it cannot. In a text
without opening brackets nothing is marked up. -/
def show? (s : String) : Except Failure (String × Option Failure) := do
  let shown ←
    if '[' ∉ s.toList then pure ⟨s.toList, [], none⟩
    else (pieces s.toList).foldlM Shown.add ⟨[], [], none⟩
  return (String.ofList (shown.text.filter (!isHidden ·)), shown.fault)

/-- What is drawn of a marked-up text. -/
def render (s : String) : Except Failure String := do
  match ← show? s with
  | (text, none) => return text
  | (_, some e) => throw e

end FieldedSearch.Markup
