/-!
# Blank characters

The characters that count as blank at the ends of a text (`isBlank`) and their removal there (`trim`, `trimEnd`); around
a number the controls that separate records are no blanks (`trimNumber`). Blanks also stand between the words of a text
(`words`), and some of them end a line (`isLineEnd`).
-/

namespace GoalPlanner.Text

/-- Blanks: the ASCII controls that move the print position or separate records, and all of Unicode's white space. -/
def isBlank (c : Char) : Bool :=
  let n := c.toNat
  (9 ≤ n && n ≤ 13) || (28 ≤ n && n ≤ 32) || n == 0x85 || n == 0xA0 || n == 0x1680 || (0x2000 ≤ n && n ≤ 0x200A)
    || n == 0x2028 || n == 0x2029 || n == 0x202F || n == 0x205F || n == 0x3000

/-- The controls that separate files, groups, records and units. -/
def isSeparator (c : Char) : Bool := 28 ≤ c.toNat && c.toNat ≤ 31

/-- The characters of a text without those at both ends of which `p` holds. -/
def stripBy (p : Char → Bool) (cs : List Char) : List Char := ((cs.dropWhile p).reverse.dropWhile p).reverse

/-- The characters of a text without the blanks at both ends. -/
def trim (cs : List Char) : List Char := stripBy isBlank cs

/-- The characters of a text without the blanks at its end. -/
def trimEnd (cs : List Char) : List Char := (cs.reverse.dropWhile isBlank).reverse

/-- The characters of a number without the blanks at both ends; separators are part of it. -/
def trimNumber (cs : List Char) : List Char := stripBy (fun c => isBlank c && !isSeparator c) cs

/-- The words of a text, between blanks. -/
def words (s : String) : List String := (s.splitToList isBlank).filter fun w => w != ""

/-- Whether a character ends a line: the controls that feed lines and pages or separate records, the next line, and the
separators of lines and paragraphs. -/
def isLineEnd (c : Char) : Bool :=
  let n := c.toNat
  (10 ≤ n && n ≤ 13) || (28 ≤ n && n ≤ 30) || n == 0x85 || n == 0x2028 || n == 0x2029

end GoalPlanner.Text
