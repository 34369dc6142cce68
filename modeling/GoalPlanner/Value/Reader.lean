import GoalPlanner.Decimal.Reader
import GoalPlanner.Value

/-!
# Documents in JSON

Reads a value from JSON text (`Value.ofJson?`). A number with a point or an exponent is a float, any other an integer of
any size. Reading walks the characters once; every call consumes one, so that their number bounds the recursion.
-/

namespace GoalPlanner.Value

namespace Reader

/-- The text without the blanks in front. -/
def skip (cs : List Char) : List Char := cs.dropWhile fun c => c == ' ' || c == '\n' || c == '\t' || c == '\r'

/-- The value of a hexadecimal digit. -/
def hexDigit? (c : Char) : Option Nat :=
  if c.isDigit then some (c.toNat - 48)
  else if 'a' ≤ c && c ≤ 'f' then some (c.toNat - 87)
  else if 'A' ≤ c && c ≤ 'F' then some (c.toNat - 55)
  else none

/-- Four hexadecimal digits. -/
def unit? : List Char → Option (Nat × List Char)
  | a :: b :: c :: d :: r => do
    let a ← hexDigit? a
    let b ← hexDigit? b
    let c ← hexDigit? c
    let d ← hexDigit? d
    return (((a * 16 + b) * 16 + c) * 16 + d, r)
  | _ => none

/-- A character written as one code unit, or as two for code points beyond the first plane. -/
def escaped? (cs : List Char) : Option (Char × List Char) := do
  let (high, r) ← unit? cs
  if 0xD800 ≤ high && high < 0xDC00 then
    match r with
    | '\\' :: 'u' :: r' =>
      let (low, r') ← unit? r'
      if 0xDC00 ≤ low && low < 0xE000 then
        return (Char.ofNat (0x10000 + (high - 0xD800) * 0x400 + (low - 0xDC00)), r')
      else return (Char.ofNat 0xFFFD, r)
    | _ => return (Char.ofNat 0xFFFD, r)
  else return (if Nat.isValidChar high then Char.ofNat high else Char.ofNat 0xFFFD, r)

/-- The rest of a text in quotes; `done` holds the characters read so far, the last one first. -/
def string? (done : List Char) : (fuel : Nat) → List Char → Option (String × List Char)
  | 0, _ => none
  | fuel + 1, cs =>
    match cs with
    | '"' :: r => some (String.ofList done.reverse, r)
    | '\\' :: 'u' :: r => do
      let (c, r) ← escaped? r
      string? (c :: done) fuel r
    | '\\' :: c :: r =>
      let c := match c with
        | 'n' => '\n'
        | 't' => '\t'
        | 'r' => '\r'
        | 'b' => '\x08'
        | 'f' => '\x0c'
        | c => c
      string? (c :: done) fuel r
    | c :: r => string? (c :: done) fuel r
    | [] => none

/-- A number. -/
def number? (cs : List Char) : Option (Value × List Char) := do
  let isPart (c : Char) := c.isDigit || c == '-' || c == '+' || c == '.' || c == 'e' || c == 'E'
  let lexeme := String.ofList (cs.takeWhile isPart)
  let rest := cs.dropWhile isPart
  if lexeme.any fun c => c == '.' || c == 'e' || c == 'E' then
    return (.float (← Decimal.readFloat? lexeme), rest)
  else return (.int (← lexeme.toInt?), rest)

mutual

/-- A value. -/
def value? : (fuel : Nat) → List Char → Option (Value × List Char)
  | 0, _ => none
  | fuel + 1, cs =>
    match skip cs with
    | 'n' :: 'u' :: 'l' :: 'l' :: r => some (.null, r)
    | 't' :: 'r' :: 'u' :: 'e' :: r => some (.bool true, r)
    | 'f' :: 'a' :: 'l' :: 's' :: 'e' :: r => some (.bool false, r)
    | '"' :: r => (string? [] fuel r).map fun (s, r) => (.text s, r)
    | '[' :: r =>
      match skip r with
      | ']' :: r => some (.list [], r)
      | _ => (items? fuel r []).map fun (vs, r) => (.list vs, r)
    | '\x7b' :: r =>
      match skip r with
      | '\x7d' :: r => some (.mapping [], r)
      | _ => (entries? fuel r []).map fun (es, r) => (.mapping es, r)
    | cs => number? cs

/-- The items of a list up to its bracket. -/
def items? : (fuel : Nat) → List Char → List Value → Option (List Value × List Char)
  | 0, _, _ => none
  | fuel + 1, cs, done => do
    let (v, r) ← value? fuel cs
    match skip r with
    | ',' :: r => items? fuel r (v :: done)
    | ']' :: r => some ((v :: done).reverse, r)
    | _ => none

/-- The entries of a mapping up to its brace. -/
def entries? : (fuel : Nat) → List Char → List (Value × Value) → Option (List (Value × Value) × List Char)
  | 0, _, _ => none
  | fuel + 1, cs, done => do
    let (k, r) ← value? fuel cs
    match skip r with
    | ':' :: r =>
      let (v, r) ← value? fuel r
      let done := putEntry k v done
      match skip r with
      | ',' :: r => entries? fuel r done
      | '\x7d' :: r => some (done, r)
      | _ => none
    | _ => none

end

end Reader

/-- The value that a JSON text holds. -/
def ofJson? (s : String) : Option Value := do
  let cs := s.toList
  let (v, r) ← Reader.value? (2 * cs.length + 2) cs
  if (Reader.skip r).isEmpty then some v else none

end GoalPlanner.Value
