import GoalPlanner.Value

/-!
# Values written as JSON

Two styles: reports are set over several lines in ASCII (`Style.report`), lines of a journal keep all characters with a
picture or without (`Style.line`). What JSON has no form for is written as its text.
-/

namespace GoalPlanner.Value

/-- The decisions of a JSON text. -/
structure Style where
  /-- Spaces for each level, if every item has a line of its own. -/
  indent : Option Nat
  /-- Whether characters outside ASCII are escaped. -/
  ascii : Bool

/-- Two spaces a level, ASCII only. -/
def Style.report : Style := ⟨some 2, true⟩

/-- All on one line, characters as they are. -/
def Style.line : Style := ⟨none, false⟩

namespace Writer

/-- Four hexadecimal digits of a code unit. -/
def unitEscape (n : Nat) : List Char := '\\' :: 'u' :: Text.hex 4 n

/-- One character of a text. -/
def charText (f : Style) (c : Char) : List Char :=
  let n := c.toNat
  if c == '"' || c == '\\' then ['\\', c]
  else if c == '\n' then ['\\', 'n']
  else if c == '\r' then ['\\', 'r']
  else if c == '\t' then ['\\', 't']
  else if n == 8 then ['\\', 'b']
  else if n == 12 then ['\\', 'f']
  else if n < 32 then unitEscape n
  else if !f.ascii || n < 127 then [c]
  else if n < 0x10000 then unitEscape n
  else unitEscape (0xD800 + (n - 0x10000) / 0x400) ++ unitEscape (0xDC00 + (n - 0x10000) % 0x400)

/-- A text in quotes. -/
def stringText (f : Style) (s : String) : String :=
  "\"" ++ String.ofList (s.toList.flatMap (charText f)) ++ "\""

/-- A float. -/
def floatText (x : Float) : String :=
  if x.isNaN then "NaN"
  else if x == 1 / 0 then "Infinity"
  else if x == -1 / 0 then "-Infinity"
  else Decimal.floatText x

/-- Items between brackets, on one line or each on its own. -/
def bracketed (f : Style) (depth : Nat) (first last : String) (items : List String) : String :=
  if items.isEmpty then first ++ last
  else match f.indent with
    | none => first ++ ", ".intercalate items ++ last
    | some n =>
      let newline (d : Nat) := "\n".pushn ' ' (n * d)
      first ++ newline (depth + 1) ++ ("," ++ newline (depth + 1)).intercalate items ++ newline depth ++ last

/-- The name of a field whose key is a value. -/
def fieldName : Value → String
  | null => "null"
  | bool true => "true"
  | bool false => "false"
  | float x => floatText x
  | object k id =>
    match k.storage? with
    | some .text => ""
    | some .integer => "0"
    | some .float => "0.0"
    | _ => (object k id).shown
  | v => v.shown

/-- An instance of a declared kind: empty if made of something, else its text. -/
def objectText (f : Style) (v : Value) : String :=
  match v.kind.storage? with
  | some .list | some .tuple => "[]"
  | some .mapping => "\x7b\x7d"
  | some .text => "\"\""
  | some .integer => "0"
  | some .float => "0.0"
  | none => stringText f v.shown

mutual

/-- A value at some depth. -/
def write (f : Style) (depth : Nat) : Value → String
  | null => "null"
  | bool true => "true"
  | bool false => "false"
  | int n => toString n
  | float x => floatText x
  | text s => stringText f s
  | list items => bracketed f depth "[" "]" (writeItems f (depth + 1) items)
  | tuple items => bracketed f depth "[" "]" (writeItems f (depth + 1) items)
  | mapping entries => bracketed f depth "\x7b" "\x7d" (writeEntries f (depth + 1) entries)
  | truth t => stringText f t.name
  | object k id => objectText f (object k id)

/-- Items of a list. -/
def writeItems (f : Style) (depth : Nat) : List Value → List String
  | [] => []
  | v :: r => write f depth v :: writeItems f depth r

/-- Entries of a mapping. -/
def writeEntries (f : Style) (depth : Nat) : List (Value × Value) → List String
  | [] => []
  | (k, v) :: r => (stringText f (fieldName k) ++ ": " ++ write f depth v) :: writeEntries f depth r

end

end Writer

/-- A value as JSON text. -/
def toJson (f : Style) (v : Value) : String := Writer.write f 0 v

end GoalPlanner.Value
