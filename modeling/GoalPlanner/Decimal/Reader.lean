import GoalPlanner.Text.Blank

/-!
# Numbers read from text

`readFloat?` reads a float from free text: blanks around it, an optional sign, then digits with an optional point and
exponent, or a word for infinity or for what is no number, in any case. Decimal digits of every script count, and single
underscores may stand between digits. `ofInt?` is the nearest float to an integer, if there is a finite one.
-/

namespace GoalPlanner.Decimal

/-- The code points of the zeros of all scripts; the digits up to nine follow each of them. -/
def zeros : List Nat := [
  48, 1632, 1776, 1984, 2406, 2534, 2662, 2790, 2918, 3046, 3174, 3302, 3430, 3558, 3664, 3792, 3872, 4160,
  4240, 6112, 6160, 6470, 6608, 6784, 6800, 6992, 7088, 7232, 7248, 42528, 43216, 43264, 43472, 43504, 43600,
  44016, 65296, 66720, 68912, 69734, 69872, 69942, 70096, 70384, 70736, 70864, 71248, 71360, 71472, 71904,
  72016, 72784, 73040, 73120, 92768, 92864, 93008, 120782, 120792, 120802, 120812, 120822, 123200, 123632,
  125264, 130032]

/-- The value of a decimal digit of any script. -/
def digit? (c : Char) : Option Nat :=
  (zeros.find? fun z => z ≤ c.toNat && c.toNat < z + 10).map (c.toNat - ·)

/-- How many digits an integer may have to be read. -/
def mostDigits : Nat := 4300

/-- A digit of any script as an ASCII digit; any other character as it is. -/
def asciiDigit (c : Char) : Char :=
  match digit? c with
  | some d => Char.ofNat (48 + d)
  | none => c

/-- The text without its underscores, if each of them stands between two digits. -/
def dropUnderscores (before : Char) : List Char → Option (List Char)
  | [] => if before == '_' then none else some []
  | c :: r =>
    if c == '_' then if before.isDigit then dropUnderscores c r else none
    else if before == '_' && !c.isDigit then none
    else (dropUnderscores c r).map (c :: ·)

/-- The number that a list of ASCII digits spells. -/
def digitsValue (cs : List Char) : Nat := cs.foldl (fun n c => 10 * n + (c.toNat - 48)) 0

/-- The float nearest to `m · 10 ^ e`. Exponents far beyond the range of floats are not computed with. -/
def scaled (m : Nat) (e : Int) : Float :=
  let size := (Nat.toDigits 10 m).length + e
  if m == 0 || size < -400 then 0
  else if 400 < size then 1 / 0
  else Float.ofScientific m (e < 0) e.natAbs

/-- An exponent part: its value, if the rest of the text is one. -/
def exponent? : List Char → Option Int
  | [] => some 0
  | c :: r =>
    if c == 'e' || c == 'E' then
      let (negative, ds) := match r with
        | '-' :: ds => (true, ds)
        | '+' :: ds => (false, ds)
        | ds => (false, ds)
      if ds.isEmpty || !ds.all Char.isDigit then none
      else some (if negative then -(digitsValue ds : Int) else digitsValue ds)
    else none

/-- An unsigned decimal: digits on at least one side of an optional point, then an optional exponent. -/
def unsigned? (cs : List Char) : Option Float :=
  let whole := cs.takeWhile Char.isDigit
  let (places, rest) := match cs.dropWhile Char.isDigit with
    | '.' :: r => (r.takeWhile Char.isDigit, r.dropWhile Char.isDigit)
    | r => ([], r)
  if whole.isEmpty && places.isEmpty then none
  else (exponent? rest).map fun e => scaled (digitsValue (whole ++ places)) (e - places.length)

/-- The words for numbers without digits. -/
def word? (cs : List Char) : Option Float :=
  let w := cs.map Char.toLower
  if w == "inf".toList || w == "infinity".toList then some (1 / 0)
  else if w == "nan".toList then some (0 / 0)
  else none

/-- The float that a text spells, if it spells one. -/
def readFloat? (s : String) : Option Float := do
  let cs ← dropUnderscores ' ' ((Text.trimNumber s.toList).map asciiDigit)
  let (negative, body) := match cs with
    | '-' :: r => (true, r)
    | '+' :: r => (false, r)
    | r => (false, r)
  let size ← (word? body).or (unsigned? body)
  return if negative then -size else size

/-- The nearest float to an integer; none when that would be infinite. -/
def ofInt? (n : Int) : Option Float :=
  if n.natAbs < Nat.pow 2 1024 - Nat.pow 2 970 then
    let size := Float.ofScientific n.natAbs false 0
    some (if n < 0 then -size else size)
  else none

/-- An integer has no nearest float just if it is as far from zero as half a step above the largest float. -/
theorem ofInt?_eq_none_iff {n : Int} : ofInt? n = none ↔ Nat.pow 2 1024 - Nat.pow 2 970 ≤ n.natAbs := by
  unfold ofInt?
  split
  · rename_i h
    exact iff_of_false (fun he => nomatch he) (Nat.not_le.2 h)
  · rename_i h
    exact iff_of_true rfl (Nat.not_lt.1 h)

end GoalPlanner.Decimal
