import GoalPlanner.Text.Blank
import GoalPlanner.Text.Markup.Literal.Token
import GoalPlanner.Text.WordPart

/-!
# Literals

What a tag may say to do on a click (`isReadable`): a name, what it is given in brackets, or both, and else any literal.
A literal is a number, a string, a constant, or a tuple, set or mapping of literals (`isLiteral`). Sets and mappings are
no items of sets and no keys.
-/

namespace GoalPlanner.Text.Markup

namespace Literal

/-- What matters about a literal to the ones around it. -/
inductive Shape
  /-- A number without a sign. -/
  | real
  | signedReal
  /-- An imaginary number without a sign. -/
  | imaginary
  /-- Any other literal, and whether it may be an item of a set or a key. -/
  | other (isKey : Bool)
  /-- The name of sets, which is only part of a literal. -/
  | setName
  deriving DecidableEq, Repr

namespace Shape

/-- The shape of a number behind a sign. -/
def signed? : Shape → Option Shape
  | real => some signedReal
  | imaginary => some (other true)
  | _ => none

/-- The shape of two numbers joined by a sign: a real and an imaginary one. -/
def joined? : Shape → Shape → Option Shape
  | real, imaginary | signedReal, imaginary => some (other true)
  | _, _ => none

/-- Whether a literal may be an item of a set or a key. -/
def isKey : Shape → Bool
  | other b => b
  | setName => false
  | _ => true

/-- The shape of several items between round brackets. -/
def tuple? (items : List Shape) : Option Shape :=
  if items.contains setName then none else some (other (items.all isKey))

/-- The shape of items between round brackets; a single one without a comma stays what it is. -/
def grouped? : List Shape × Bool → Option Shape
  | ([item], false) => some item
  | (items, _) => tuple? items

end Shape

open Token in
mutual

/-- The literal at the front of some tokens, and what follows: one without operators, or numbers with signs. -/
def value? : (fuel : Nat) → List Token → Option (Shape × List Token)
  | 0, _ => none
  | fuel + 1, ts => do
    let (left, rest) ← match ts with
      | sign :: ts => do
        let (operand, rest) ← single? fuel ts
        pure (← operand.signed?, rest)
      | ts => single? fuel ts
    match rest with
    | sign :: ts => do
      let (right, rest) ← single? fuel ts
      pure (← left.joined? right, rest)
    | rest => some (left, rest)

/-- The literal without operators at the front of some tokens, and what follows. -/
def single? : (fuel : Nat) → List Token → Option (Shape × List Token)
  | 0, _ => none
  | fuel + 1, ts => do
    let (item, rest) ← match ts with
      | number isImaginary :: ts => some (if isImaginary then Shape.imaginary else .real, ts)
      | string isBytes :: ts =>
        let isString (t : Token) : Bool := t == string true || t == string false
        if (ts.takeWhile isString).all (· == string isBytes) then some (.other true, ts.dropWhile isString) else none
      | constant :: ts => some (.other true, ts)
      | setName :: ts => some (.setName, ts)
      | openRound :: closeRound :: ts => some (.other true, ts)
      | openRound :: ts => do
        let (items, rest) ← items? fuel closeRound ts
        pure (← Shape.grouped? items, rest)
      | openCurly :: closeCurly :: ts => some (.other false, ts)
      | openCurly :: ts => (entries? fuel ts).map (.other false, ·)
      | _ => none
    match item, rest with
    | .setName, openRound :: closeRound :: rest => some (.other false, rest)
    | item, rest => some (item, rest)

/-- The literals at the front of some tokens, between commas up to a closing token, whether there is a comma, and what
follows. A comma may stand behind the last one. -/
def items? : (fuel : Nat) → Token → List Token → Option ((List Shape × Bool) × List Token)
  | 0, _, _ => none
  | fuel + 1, closing, ts => do
    match ← value? fuel ts with
    | (item, comma :: t :: rest) =>
      if t == closing then some (([item], true), rest)
      else (items? fuel closing (t :: rest)).map fun ((items, _), rest) => ((item :: items, true), rest)
    | (item, t :: rest) => if t == closing then some (([item], false), rest) else none
    | (_, []) => none

/-- What follows the items of a set or the entries of a mapping, up to the closing bracket. -/
def entries? : (fuel : Nat) → List Token → Option (List Token)
  | 0, _ => none
  | fuel + 1, ts => do
    let (first, rest) ← value? fuel ts
    if !first.isKey then none
    else
      match rest with
      | colon :: rest => afterKey? fuel rest
      | closeCurly :: rest | comma :: closeCurly :: rest => some rest
      | comma :: rest => do
        let ((items, _), rest) ← items? fuel closeCurly rest
        if items.all Shape.isKey then some rest else none
      | _ => none

/-- What follows the entries of a mapping from the value of one on, up to the closing bracket. -/
def afterKey? : (fuel : Nat) → List Token → Option (List Token)
  | 0, _ => none
  | fuel + 1, ts => do
    match ← value? fuel ts with
    | (.setName, _) => none
    | (_, closeCurly :: rest) | (_, comma :: closeCurly :: rest) => some rest
    | (_, comma :: rest) =>
      match ← value? fuel rest with
      | (key, colon :: rest) => if key.isKey then afterKey? fuel rest else none
      | _ => none
    | _ => none

end

end Literal

/-- Whether a text is a literal, or several of them between commas. -/
def isLiteral (cs : List Char) : Bool :=
  let shape? := do
    let ts ← Literal.Token.ofText? cs
    let (items, rest) ← Literal.items? (4 * ts.length) (.newline false) ts
    if rest.isEmpty then Literal.Shape.grouped? items else none
  !cs.contains '\x00' && shape?.any (· != .setName)

/-- Whether what a tag says to do on a click can be read. -/
def isReadable (parameters : String) : Bool :=
  let given := trim parameters.toList
  let behind := given.dropWhile fun c => isWordPart c || c == '.'
  let inBrackets := behind.head? == some '(' && behind.getLast? == some ')' && !behind.contains '\n'
  behind.isEmpty || isLiteral (if inBrackets then behind else given)

end GoalPlanner.Text.Markup
