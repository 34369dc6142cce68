import GoalPlanner.Decimal.Reader

/-!
# Tokens of literals

The smallest parts of a literal (`Token`) and how a text is cut into them (`Token.ofText?`): numbers, strings, named
constants, signs and brackets, with blanks, comments and line ends between them. Of a number or a string only its sort
is kept, once it is spelled as it should be.
-/

namespace GoalPlanner.Text.Markup.Literal

/-- The smallest parts of a literal. -/
inductive Token
  | number (isImaginary : Bool)
  | string (isBytes : Bool)
  /-- A truth value, nothing, or three dots. -/
  | constant
  /-- The name of sets. -/
  | setName
  | sign
  | comma
  | colon
  | openRound
  | closeRound
  | openCurly
  | closeCurly
  /-- The end of a line, and whether the next one is indented. -/
  | newline (isIndented : Bool)
  deriving DecidableEq, Repr

namespace Token

/-! ## Numbers -/

/-- Whether a character may be part of a name. -/
def isNamePart (c : Char) : Bool := c.isAlphanum || c == '_' || 127 < c.toNat

/-- Whether a character is a hexadecimal digit. -/
def isHex (c : Char) : Bool := c.isDigit || ('a' ≤ c && c ≤ 'f') || ('A' ≤ c && c ≤ 'F')

/-- The digits at the front of a text, possibly none, and what follows. Single underscores may stand between digits. -/
def digits? (isDigit : Char → Bool) (cs : List Char) : Option (List Char × List Char) :=
  let isPart (c : Char) : Bool := isDigit c || c == '_'
  let run := cs.takeWhile isPart
  if run.isEmpty || (run.splitOnP (· == '_')).all (!·.isEmpty) then some (run.filter isDigit, cs.dropWhile isPart)
  else none

/-- The digits of the base that a letter behind a zero stands for. -/
def base? (letter : Char) : Option (Char → Bool) :=
  match letter.toLower with
  | 'x' => some isHex
  | 'o' => some fun c => '0' ≤ c && c ≤ '7'
  | 'b' => some fun c => c == '0' || c == '1'
  | _ => none

/-- What follows an integer to another base, whose digits may follow an underscore. -/
def afterBased? (isDigit : Char → Bool) (cs : List Char) : Option (List Char) := do
  let (ds, rest) ← digits? isDigit (if cs.head? == some '_' then cs.tail else cs)
  if ds.isEmpty then none else some rest

/-- What follows the exponent at the front of a text, if there is one. -/
def afterExponent? : List Char → Option (Option (List Char))
  | c :: r =>
    if c.toLower != 'e' then some none
    else
      match digits? Char.isDigit (if r.head? == some '+' || r.head? == some '-' then r.tail else r) with
      | some (_ :: _, rest) => some (some rest)
      | _ => none
  | [] => some none

/-- Whether an integer may be written with some digits: zeros in front only if there is nothing else, and not too many
digits. -/
def isInteger (ds : List Char) : Bool :=
  ds.all (· == '0') || (ds.head? != some '0' && ds.length ≤ Decimal.mostDigits)

/-- The decimal number at the front of a text, and what follows. -/
def decimal? (cs : List Char) : Option (Token × List Char) := do
  let (whole, rest) ← digits? Char.isDigit cs
  let (hasPoint, rest) ← match rest with
    | '.' :: r => (digits? Char.isDigit r).map fun (_, rest) => (true, rest)
    | r => some (false, r)
  let exponent ← afterExponent? rest
  let rest := exponent.getD rest
  match rest with
  | 'j' :: r | 'J' :: r => some (.number true, r)
  | r => if hasPoint || exponent.isSome || isInteger whole then some (.number false, r) else none

/-- The number at the front of a text, and what follows, which is no part of a name. -/
def number? (cs : List Char) : Option (Token × List Char) := do
  let (t, rest) ← match cs with
    | '0' :: letter :: r =>
      match base? letter with
      | some isDigit => (afterBased? isDigit r).map fun rest => (.number false, rest)
      | none => decimal? cs
    | _ => decimal? cs
  if rest.head?.any isNamePart then none else some (t, rest)

/-! ## Strings -/

/-- The body of a string up to its closing quotes, and what follows. What stands behind a backslash closes nothing; only
there, or between three quotes, may a line end. -/
def body? (quotes : List Char) : List Char → Option (List Char × List Char)
  | [] => none
  | '\\' :: c :: r => (body? quotes r).map fun (body, rest) => ('\\' :: c :: body, rest)
  | c :: r =>
    if quotes.isPrefixOf (c :: r) then some ([], (c :: r).drop quotes.length)
    else if c == '\n' && quotes.length == 1 then none
    else (body? quotes r).map fun (body, rest) => (c :: body, rest)

/-- The number that hexadecimal digits at the front of a text spell, if there are so many. -/
def hex? (count : Nat) (cs : List Char) : Option Nat :=
  let ds := cs.take count
  if ds.length == count && ds.all isHex then
    some (ds.foldl (fun n c => 16 * n + if c.isDigit then c.toNat - 48 else c.toLower.toNat - 87) 0)
  else none

/-- Whether a name of a character stands in braces at the front of a text. -/
def startsNamed : List Char → Bool
  | '\x7b' :: r =>
    let name := r.takeWhile (· != '\x7d')
    !name.isEmpty && name.all (fun c => c.isAlphanum || c == ' ' || c == '-') && name.length < r.length
  | _ => false

/-- Whether every escape in the body of a string is complete. Bytes have no escapes for other characters. -/
def isComplete (isBytes : Bool) : List Char → Bool
  | [] => true
  | '\\' :: c :: r =>
    (if c == 'x' then (hex? 2 r).isSome
      else if isBytes then true
      else if c == 'u' then (hex? 4 r).isSome
      else if c == 'U' then (hex? 8 r).any (· < 0x110000)
      else if c == 'N' then startsNamed r
      else true) && isComplete isBytes r
  | _ :: r => isComplete isBytes r

/-- The sorts of strings by the letters in front of the quotes: whether they are bytes, and whether they have
escapes. -/
def stringSorts : List (String × Bool × Bool) :=
  [("", false, true), ("u", false, true), ("r", false, false), ("b", true, true), ("br", true, false),
    ("rb", true, false)]

/-- The string at the front of a text, given the letters in front of it, and what follows. -/
def string? (letters : List Char) (cs : List Char) : Option (Token × List Char) := do
  let (isBytes, hasEscapes) ← stringSorts.lookup (String.ofList (letters.map Char.toLower))
  let q ← cs.head?
  let quotes := if [q, q, q].isPrefixOf cs then [q, q, q] else [q]
  let (body, rest) ← body? quotes (cs.drop quotes.length)
  if (isBytes && body.any (127 < ·.toNat)) || (hasEscapes && !isComplete isBytes body) then none
  else some (.string isBytes, rest)

/-! ## Texts -/

/-- The names of constants. -/
def constants : List String := ["None", "True", "False"]

/-- Whether a character begins a string. -/
def isQuote (c : Char) : Bool := c == '"' || c == '\''

/-- The name at the front of a text, or the string that it belongs to, and what follows. -/
def name? (cs : List Char) : Option (Token × List Char) :=
  let name := cs.takeWhile isNamePart
  let rest := cs.dropWhile isNamePart
  if rest.head?.any isQuote then string? name rest
  else if constants.contains (String.ofList name) then some (.constant, rest)
  else if name == "set".toList then some (.setName, rest)
  else none

/-- The token at the front of a text, and what follows. -/
def next? : List Char → Option (Token × List Char)
  | '(' :: r => some (.openRound, r)
  | ')' :: r => some (.closeRound, r)
  | '\x7b' :: r => some (.openCurly, r)
  | '\x7d' :: r => some (.closeCurly, r)
  | ',' :: r => some (.comma, r)
  | ':' :: r => some (.colon, r)
  | '+' :: r | '-' :: r => some (.sign, r)
  | '.' :: '.' :: '.' :: r => some (.constant, r)
  | c :: r =>
    if c.isDigit || (c == '.' && r.head?.any Char.isDigit) then number? (c :: r)
    else if isQuote c then string? [] (c :: r)
    else if isNamePart c then name? (c :: r)
    else none
  | [] => none

/-- Whether a character may stand between tokens. -/
def isGap (c : Char) : Bool := c == ' ' || c == '\t' || c == '\x0c'

/-- Whether the line at the front of a text is indented, given whether there are blanks before it; a form feed takes
them back. Of a line that a backslash joins with the next, the first of the two that is indented counts. -/
def isIndented (blanks : Bool) : List Char → Bool
  | '\\' :: '\n' :: r => blanks || isIndented false r
  | c :: r => if isGap c then isIndented (c != '\x0c') r else blanks
  | [] => blanks

/-- The tokens of a text. A comment goes to the end of its line, and a backslash takes back the end of a line. -/
def all? : (fuel : Nat) → List Char → Option (List Token)
  | 0, _ => none
  | _ + 1, [] => some []
  | fuel + 1, c :: r =>
    if isGap c then all? fuel r
    else if c == '#' then all? fuel (r.dropWhile (· != '\n'))
    else if c == '\\' then if r.head? == some '\n' then all? fuel r.tail else none
    else if c == '\n' then (.newline (isIndented false r) :: ·) <$> all? fuel r
    else (next? (c :: r)).bind fun (t, rest) => (t :: ·) <$> all? fuel rest

/-- How deep brackets may be nested. -/
def deepest : Nat := 200

/-- The tokens without the line ends between brackets, if brackets are not nested too deeply. -/
def joined? (depth : Nat) : List Token → Option (List Token)
  | [] => some []
  | t :: ts =>
    match t with
    | openRound | openCurly => if depth < deepest then (t :: ·) <$> joined? (depth + 1) ts else none
    | closeRound | closeCurly => (t :: ·) <$> joined? (depth - 1) ts
    | newline _ => if depth == 0 then (t :: ·) <$> joined? depth ts else joined? depth ts
    | t => (t :: ·) <$> joined? depth ts

/-- Whether a token ends a line. -/
def isNewline : Token → Bool
  | newline _ => true
  | _ => false

/-- A text in which every line ends in a line feed. -/
def withLineFeeds : List Char → List Char
  | '\r' :: '\n' :: r => '\n' :: withLineFeeds r
  | '\r' :: r => '\n' :: withLineFeeds r
  | c :: r => c :: withLineFeeds r
  | [] => []

/-- The tokens of a text, from the first line that is not empty; that line is not indented. A single end of a line
stands behind them. -/
def ofText? (cs : List Char) : Option (List Token) := do
  let cs := '\n' :: withLineFeeds cs
  let ts ← joined? 0 (← all? (cs.length + 1) cs)
  if (ts.takeWhile isNewline).getLast? == some (.newline true) then none
  else
    let trimmed := ((ts.dropWhile isNewline).reverse.dropWhile isNewline).reverse
    some (trimmed ++ [.newline false])

end Token

end GoalPlanner.Text.Markup.Literal
