import GoalPlanner.Text.Cells.Width

/-!
# Cells

How much room a text takes on a screen, in cells (`cells`). Characters take as many as they do alone, with two
exceptions: a joiner draws the character behind it into the one in front of it, so that it takes no room of its own, and
behind a selector of emoji the last character that takes room counts as an emoji. Only the drawing of tables measures
texts so, on which no result depends.
-/

namespace GoalPlanner.Text

/-- The character that joins those around it. -/
def joiner : Char := '\u200d'

/-- The character that turns the one in front of it into an emoji. -/
def emojiSelector : Char := '\ufe0f'

/-- The last character that takes room once one more is read, given the last one so far. -/
def lastShown (c : Char) (last : Option Char) : Option Char := if cellsOf c == 0 then last else some c

/-- How many cells a text takes behind other text, given the last character there that takes room and is no emoji. -/
def cellsBehind (last : Option Char) : List Char → Nat
  | [] => 0
  | [c] => if c == joiner then 0 else if c == emojiSelector then (if last.any grows then 1 else 0) else cellsOf c
  | c :: d :: cs =>
    if c == joiner then cellsBehind last cs
    else if c == emojiSelector then (if last.any grows then 1 else 0) + cellsBehind none (d :: cs)
    else cellsOf c + cellsBehind (lastShown c last) (d :: cs)

/-- How many cells a text takes. -/
def cells (cs : List Char) : Nat := cellsBehind none cs

end GoalPlanner.Text
