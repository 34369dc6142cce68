import GoalPlanner.Text.Blank
import GoalPlanner.Text.Cells.Cluster
import GoalPlanner.Text.Styled

/-!
# Lines that fit

The lines of a text with styles (`lines`), and how they are set in a column. Tabs are set by cells (`withoutTabs`). A
line that takes more room than the column has goes on in further lines (`folded`), where a word that is too long is cut
and ends in dots (`fitted`). The stretches of a line are drawn one by one, and together they may take more room than the
line does; then the rest is left out (`drawn`).
-/

namespace GoalPlanner.Text

/-! ## Words -/

/-- The words of a line, each with the blanks behind it; those in front of the first word belong to it. -/
def spacedWords (line : List Char) : List (List Char) :=
  match line.splitBy fun a b => !isBlank a || isBlank b with
  | front :: word :: words => if front.all isBlank then (front ++ word) :: words else front :: word :: words
  | words => words

/-- The places where a line is broken, given the room that is taken up in front of the words and the place where they
start. A word goes to the next line if it does not fit; the first one cannot. -/
def breaks (width : Nat) (taken start : Nat) : List (List Char) → List Nat
  | [] => []
  | word :: words =>
    let rest (taken : Nat) := breaks width taken (start + word.length) words
    if taken + cells (trimEnd word) ≤ width then rest (taken + cells word)
    else if start == 0 then rest (cells word) else start :: rest (cells word)

/-! ## Drawing -/

/-- As much of several stretches as there is room for, given that they take more. -/
def drawnFront (width : Nat) : List (List Char) → Except CutError (List (List Char))
  | [] => .ok []
  | cs :: css =>
    if cells cs < width then (cs :: ·) <$> drawnFront (width - cells cs) css else ([·]) <$> cut width cs

/-- What is drawn of several stretches in the room of a width. -/
def drawnIn (width : Nat) (css : List (List Char)) : Except CutError (List (List Char)) :=
  if css.foldl (fun n cs => n + cells cs) 0 ≤ width then .ok css else drawnFront width css

namespace Styled

/-- The lines of a text. -/
def lines (t : Styled) : List Styled :=
  let places := (placesOf (· == '\n') t.text).flatMap fun i => [i, i + 1]
  (t.parts places).filter fun line => line.text != ['\n']

/-- A text that ends in a tab, with blanks in its place, up to the next cell whose number is a multiple of eight. -/
def withoutLastTab (t : Styled) : Styled :=
  if t.text.getLast? == some '\t' then
    let text := t.text.dropLast ++ [' ']
    let blanks := (8 - cells text % 8) % 8
    { text := text ++ List.replicate blanks ' '
      spans := t.spans.map fun s => if s.last < text.length then s else { s with last := s.last + blanks } }
  else t

/-- A line with blanks for its tabs. -/
def withoutTabs (line : Styled) : Styled :=
  if line.text.contains '\t' then
    concat ((line.parts ((placesOf (· == '\t') line.text).map (· + 1))).map withoutLastTab)
  else line

/-- A line without tabs in lines of a width. -/
def folded (width : Nat) (line : Styled) : List Styled := line.parts (breaks width 0 0 (spacedWords line.text))

/-- A line without blanks at its end that stand behind as many characters as there is room for. -/
def withoutEnd (width : Nat) (line : Styled) : Styled :=
  let surplus := min (line.text.length - (trimEnd line.text).length) (line.text.length - width)
  line.withText (line.text.take (line.text.length - surplus))

/-- A line that is too long for a width, with dots for the rest. -/
def dotted (width : Nat) (line : Styled) : Except CutError Styled :=
  if cells line.text ≤ width then .ok line
  else do return line.withText ((← cut (width - 1) line.text) ++ ['…'])

/-- A line in the room of a width: blanks at its end give way, what is still too long ends in dots, and blanks fill a
line that is too short. A line that takes too much room with its dots is cut once more. -/
def fitted (width : Nat) (line : Styled) : Except CutError Styled := do
  let line := line.withoutEnd width
  if cells line.text ≤ width then
    return line.withText (line.text ++ List.replicate (width - cells line.text) ' ')
  (← line.dotted width).dotted width

/-- What is drawn of a line in a column of a width: first by itself, then with a blank in front of it and behind it, of
which the one in front is not given. -/
def drawn (width : Nat) (line : Styled) : Except CutError (List Char) := do
  let css ← drawnIn width line.stretches
  return (← drawnIn (width + 2) ([' '] :: css ++ [[' ']])).tail.flatten

end Styled

end GoalPlanner.Text
