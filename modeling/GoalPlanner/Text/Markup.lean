import GoalPlanner.Text.Markup.Emoji
import GoalPlanner.Text.Markup.Literal
import GoalPlanner.Text.Markup.Style
import GoalPlanner.Text.Styled

/-!
# Marked-up text

Text with tags between square brackets, which set a style from there on (`[bold]`) or end one (`[/bold]`, or `[/]` for
the last). A text is cut into pieces (`pieces`); a bracket that starts no tag stands for itself, and so does one behind
an odd number of backslashes. `read` gives the text without its tags and the styles set in it, if every end has a
beginning; whether the styles can be used is checked where the text is set (`checkSpans`). Only the texts of tables are
marked up, and no result depends on how these are drawn.
-/

namespace GoalPlanner.Text.Markup

/-- Why a marked-up text is refused. -/
inductive Error
  /-- An end of a style that nothing began, by its name; empty for the last style. -/
  | stray (name : String)
  /-- What a tag says to do on a click makes no sense. -/
  | unreadable (parameters : String)
  /-- A mixed colour of which a share is left out, by the description of the style that has it. -/
  | noShare (style : String)
  deriving DecidableEq, Repr

/-! ## Pieces -/

/-- A tag: its name and what stands behind an equals sign. -/
structure Tag where
  name : String
  parameters : Option String
  deriving DecidableEq, Repr

/-- A part of a marked-up text. -/
inductive Piece
  | text (cs : List Char)
  | tag (t : Tag)
  deriving DecidableEq, Repr

/-- Whether a tag may start with a character. -/
def startsTag (c : Char) : Bool := ('a' ≤ c && c ≤ 'z') || c == '#' || c == '/' || c == '@'

/-- What stands between an opening bracket and the closing one, and the text behind, if that is a tag. -/
def inside? (cs : List Char) : Option (List Char × List Char) :=
  match cs.dropWhile (· != ']') with
  | _ :: rest => if cs.head?.any startsTag then some (cs.takeWhile (· != ']'), rest) else none
  | [] => none

/-- The tag with some content. -/
def Tag.ofContent (cs : List Char) : Tag :=
  match cs.dropWhile (· != '=') with
  | _ :: parameters => ⟨String.ofList (cs.takeWhile (· != '=')), some (String.ofList parameters)⟩
  | [] => ⟨String.ofList cs, none⟩

/-- The pieces of a text, given what stands before its first opening bracket and behind each of them. Backslashes in
front of a tag count half, and an odd one makes it text. -/
def piecesFrom (front : List Char) : List (List Char) → List Piece
  | [] => [.text front]
  | part :: parts =>
    match inside? part with
    | none => piecesFrom (front ++ '[' :: part) parts
    | some (content, rest) =>
      let slashes := (front.reverse.takeWhile (· == '\\')).length
      let piece := if slashes % 2 == 0 then .tag (.ofContent content) else .text ('[' :: content ++ [']'])
      .text (front.take (front.length - slashes)) :: .text (List.replicate (slashes / 2) '\\') :: piece
        :: piecesFrom rest parts

/-- The pieces of a text. -/
def pieces (cs : List Char) : List Piece :=
  match cs.splitOnP (· == '[') with
  | front :: parts => piecesFrom front parts
  | [] => []

/-! ## Text -/

/-- The text with every bracket behind a backslash standing alone. -/
def bareBrackets : List Char → List Char
  | '\\' :: '[' :: r => '[' :: bareBrackets r
  | c :: r => c :: bareBrackets r
  | [] => []

/-- The controls that are left out: bell, backspace, vertical tab, form feed and return. -/
def isLeftOut (c : Char) : Bool := [7, 8, 11, 12, 13].contains c.toNat

/-- What is shown of a text between tags. -/
def shownText (cs : List Char) : List Char := (withEmoji (bareBrackets cs)).filter fun c => !isLeftOut c

/-! ## Nesting -/

/-- A text of which a part has been read: what is shown of it, and the tags that are open, the last one first, with the
number of characters in front of each. -/
structure Draft extends Styled where
  opened : List (Nat × Tag)

/-- The description of the style that a tag sets. -/
def Tag.style (t : Tag) : String := t.name ++ (t.parameters.elim "" (" " ++ ·))

/-- Whether a tag says what to do on a click. -/
def Tag.isAction (t : Tag) : Bool := t.name.startsWith "@"

/-- The tag that an end belongs to, and the tags that stay open: the last of the name, or the last of all. -/
def close? (name : String) : List (Nat × Tag) → Option ((Nat × Tag) × List (Nat × Tag))
  | [] => none
  | t :: ts =>
    if name == "" || t.2.name == name then some (t, ts)
    else (close? name ts).map fun (u, us) => (u, t :: us)

/-- The normal form of a tag's name. -/
def normalName (name : String) : Except Error String :=
  if name == "" then .ok name else (normal? name).elim (.error (.noShare name)) .ok

/-- Ends a style. What is done on a click changes no style of the text that it covers. -/
def Draft.close (d : Draft) (name : String) : Except Error Draft := do
  match close? (← normalName name) d.opened with
  | none => .error (.stray name)
  | some ((first, t), opened) =>
    let closed (style : String) : Draft := { d with opened, spans := d.spans ++ [⟨first, d.text.length, style⟩] }
    if t.isAction then
      let p := t.parameters.getD ""
      if p == "" || isReadable p then .ok (closed "none") else .error (.unreadable p)
    else .ok (closed t.style)

/-- Begins a style. -/
def Draft.start (d : Draft) (t : Tag) : Except Error Draft :=
  return { d with opened := (d.text.length, { t with name := (← normalName t.name) }) :: d.opened }

/-- Reads one more piece. -/
def Draft.add (d : Draft) : Piece → Except Error Draft
  | .text cs => .ok { d with text := d.text ++ shownText cs }
  | .tag t =>
    match t.name.toList with
    | '/' :: name => d.close (String.ofList (trim name))
    | _ => d.start t

/-- The text that has been read, where styles that are still open end with it. -/
def Draft.finish (d : Draft) : Styled :=
  { d.toStyled with spans := d.spans ++ d.opened.map fun (first, t) => ⟨first, d.text.length, t.style⟩ }

/-- What is shown of a marked-up text, and in which styles. -/
def read (s : String) : Except Error Styled :=
  Draft.finish <$> (pieces s.toList).foldlM Draft.add ⟨⟨[], []⟩, []⟩

/-- Checks that styles can be used; what describes no style sets none. -/
def checkSpans (spans : List Span) : Except Error Unit :=
  spans.forM fun span => if (normal? span.style).isSome then .ok () else .error (.noShare span.style)

end GoalPlanner.Text.Markup
