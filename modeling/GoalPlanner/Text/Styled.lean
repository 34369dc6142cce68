/-!
# Text with styles

A text in which styles are set (`Styled`): each covers the characters between two places (`Span`). Such a text can be
taken apart (`part`, `parts`) and put together (`append`); the styles go with the characters they cover. What is drawn
in one style throughout is a stretch (`stretches`). Only the drawing of tables uses styles, on which no result depends.
-/

namespace GoalPlanner.Text

/-- A style set in a text: its description, and the numbers of the characters in front of and within it. -/
structure Span where
  first : Nat
  last : Nat
  style : String
  deriving DecidableEq, Repr

/-- A text with the styles set in it. -/
structure Styled where
  text : List Char
  spans : List Span
  deriving DecidableEq, Repr

/-- The places of the characters of which `p` holds. -/
def placesOf (p : Char → Bool) (cs : List Char) : List Nat :=
  cs.zipIdx.filterMap fun (c, i) => if p c then some i else none

namespace Styled

/-! ## Parts -/

/-- What stands between two places; styles that cover none of it are gone. -/
def part (t : Styled) (first last : Nat) : Styled where
  text := (t.text.take last).drop first
  spans := (t.spans.map fun s => { s with first := s.first - first, last := min s.last last - first }).filter
    fun s => s.first < s.last

/-- The parts between places in a text; all of it, if there are no places. -/
def parts (t : Styled) (places : List Nat) : List Styled :=
  if places.isEmpty then [t]
  else ((0 :: places).zip (places ++ [t.text.length])).map fun (first, last) => t.part first last

/-- One text behind another. -/
def append (t u : Styled) : Styled where
  text := t.text ++ u.text
  spans := t.spans ++ u.spans.map fun s => { s with first := t.text.length + s.first, last := t.text.length + s.last }

/-- Several texts, one behind the other. -/
def concat (ts : List Styled) : Styled := ts.foldl append ⟨[], []⟩

/-- Other characters in the place of a text's own. Where they are fewer, styles that begin behind them are gone. -/
def withText (t : Styled) (cs : List Char) : Styled where
  text := cs
  spans :=
    if cs.length < t.text.length then
      (t.spans.filter fun s => s.first < cs.length).map fun s => { s with last := min cs.length s.last }
    else t.spans

/-! ## Stretches -/

/-- Whether a style begins or ends at a place. -/
def changesAt (t : Styled) (i : Nat) : Bool := t.spans.any fun s => s.first == i || s.last == i

/-- The stretches of what stands behind a place: no style begins or ends within one. -/
def stretchesFrom (t : Styled) (i : Nat) : List Char → List (List Char)
  | [] => []
  | c :: cs =>
    match t.stretchesFrom (i + 1) cs with
    | [] => [[c]]
    | s :: ss => if t.changesAt (i + 1) then [c] :: s :: ss else (c :: s) :: ss

/-- The stretches of a text. -/
def stretches (t : Styled) : List (List Char) := t.stretchesFrom 0 t.text

end Styled

end GoalPlanner.Text
