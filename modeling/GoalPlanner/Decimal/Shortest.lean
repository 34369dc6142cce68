import GoalPlanner.Decimal.Binary

/-!
# The shortest decimal that reads back

Among the decimals that round to a given float, `shortest` takes one with the fewest digits and of these the nearest to
the float, a tie going to the even digit. On each decimal grid only the two neighbours of the value are candidates: if
any point of a grid rounds to the float, one of these two does.
-/

namespace GoalPlanner.Decimal

/-- A decimal `digits · 10 ^ exponent`. -/
structure Digits where
  digits : Nat
  exponent : Int
  deriving DecidableEq, Repr

/-- A positive number `m · 2 ^ q` with the ends of the interval of numbers that round to it, all over one denominator,
in units of `10 ^ k`. The ends belong to the interval when `m` is even. -/
structure Grid where
  value : Nat
  low : Nat
  high : Nat
  den : Nat
  closed : Bool

/-- The grid of step `10 ^ k` about a positive float. -/
def Grid.about (b : Binary) (k : Int) : Grid :=
  let scale := Nat.pow 2 (b.exponent - 2).toNat * Nat.pow 10 (-k).toNat
  let m := 4 * b.significand
  { value := m * scale
    low := (if b.narrowBelow then m - 1 else m - 2) * scale
    high := (m + 2) * scale
    den := Nat.pow 2 (2 - b.exponent).toNat * Nat.pow 10 k.toNat
    closed := b.significand % 2 == 0 }

/-- Whether the point `c` of a grid rounds to the value. -/
def Grid.hits (g : Grid) (c : Nat) : Bool :=
  let p := c * g.den
  if g.closed then g.low ≤ p && p ≤ g.high else g.low < p && p < g.high

/-- The point of a grid that stands for the value, if one rounds to it: the nearer neighbour, of two equally near ones
the even one. -/
def Grid.point? (g : Grid) : Option Nat :=
  let c := g.value / g.den
  let below := g.value - c * g.den
  let above := (c + 1) * g.den - g.value
  match g.hits c, g.hits (c + 1) with
  | true, true => if below < above then some c
      else if above < below then some (c + 1)
      else some (if c % 2 == 0 then c else c + 1)
  | true, false => some c
  | false, true => some (c + 1)
  | false, false => none

/-- The exponent of the leading digit of a positive float: the `e` with `10 ^ e ≤ m · 2 ^ q < 10 ^ (e + 1)`. -/
def leading (b : Binary) : Int :=
  let atLeast (e : Int) : Bool :=
    Nat.pow 10 e.toNat * Nat.pow 2 (-b.exponent).toNat ≤
      b.significand * Nat.pow 2 b.exponent.toNat * Nat.pow 10 (-e).toNat
  let guess := ((Nat.log2 b.significand + b.exponent) * 30103).fdiv 100000
  if atLeast (guess + 1) then guess + 1
  else if atLeast guess then guess
  else guess - 1

/-- The first of the grids with `n`, `n + 1`, … digits that has a point for the float. -/
def firstGrid (b : Binary) (lead : Int) : (n fuel : Nat) → Digits
  | _, 0 => ⟨b.significand, b.exponent⟩
  | n, fuel + 1 =>
    let k := lead + 1 - n
    match (Grid.about b k).point? with
    | some c => ⟨c, k⟩
    | none => firstGrid b lead (n + 1) fuel

/-- The digits without zeros at the end. -/
def Digits.normal (d : Digits) : (fuel : Nat) → Digits
  | 0 => d
  | fuel + 1 => if d.digits % 10 == 0 && d.digits != 0 then normal ⟨d.digits / 10, d.exponent + 1⟩ fuel else d

/-- The shortest decimal of a positive float; seventeen digits always suffice. -/
def shortest (b : Binary) : Digits := (firstGrid b (leading b) 1 17).normal 18

end GoalPlanner.Decimal
