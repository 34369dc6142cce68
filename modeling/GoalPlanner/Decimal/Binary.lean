/-!
# Floats as exact numbers

A finite float is `± m · 2 ^ q` for a natural `m` and an integer `q` (`Binary`, read off the bits by `ofBits?`). The
module holds what follows from that alone: exact quotients rounded half to even (`roundDiv`) and the exact value, as a
rational (`rational?`) or an integer (`Binary.integer?`).
-/

namespace GoalPlanner.Decimal

/-- A number `± significand · 2 ^ exponent`. -/
structure Binary where
  negative : Bool
  significand : Nat
  exponent : Int
  deriving DecidableEq, Repr

/-- The parts of the finite float with some bits; none for infinities and for what is no number. -/
def Binary.ofBits? (bits : Nat) : Option Binary :=
  let negative := bits / Nat.pow 2 63 == 1
  let field : Nat := bits / Nat.pow 2 52 % Nat.pow 2 11
  let fraction : Nat := bits % Nat.pow 2 52
  if field == 2047 then none
  else if field == 0 then some ⟨negative, fraction, -1074⟩
  else some ⟨negative, Nat.pow 2 52 + fraction, (field : Int) - 1075⟩

/-- The parts of a finite float. -/
def Binary.ofFloat? (x : Float) : Option Binary := ofBits? x.toBits.toNat

/-- The number with its sign. -/
def Binary.signed {α : Type} [Neg α] (b : Binary) (size : α) : α := if b.negative then -size else size

/-- The exact value. -/
def Binary.value (b : Binary) : Rat := b.signed (b.significand * (2 : Rat) ^ b.exponent)

/-- The exact value, if it is whole. -/
def Binary.integer? (b : Binary) : Option Int :=
  let unit : Nat := Nat.pow 2 (-b.exponent).toNat
  let size : Nat := b.significand / unit * Nat.pow 2 b.exponent.toNat
  if b.significand % unit == 0 then some (b.signed (size : Int)) else none

/-- Whether the distance to the next smaller float is half of the distance to the next larger one. -/
def Binary.narrowBelow (b : Binary) : Bool := b.significand == Nat.pow 2 52 && b.exponent != -1074

/-- The exact value of a finite float. -/
def rational? (x : Float) : Option Rat := (Binary.ofFloat? x).map Binary.value

/-- The quotient of two numbers, rounded to the nearest natural; a half goes to the even neighbour. -/
def roundDiv (num den : Nat) : Nat :=
  let q := num / den
  let twice := 2 * (num % den)
  if twice < den then q
  else if den < twice then q + 1
  else if q % 2 == 0 then q else q + 1

end GoalPlanner.Decimal
