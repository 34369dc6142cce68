/-!
# Ranges of characters

Tables of characters are lists of ranges of code points (`Ranges`); a character is in a table if its code point is in
one of the ranges (`Ranges.has`).
-/

namespace GoalPlanner.Text

/-- Ranges of code points; both ends belong to a range. -/
abbrev Ranges := List (Nat × Nat)

/-- Whether a character is in a table. -/
def Ranges.has (t : Ranges) (c : Char) : Bool := t.any fun (first, last) => first ≤ c.toNat && c.toNat ≤ last

end GoalPlanner.Text
