import GoalPlanner.Decimal.Text

/-!
# Costs and values

What planning needs of the numbers that measure actions and goals (`Cost`): sums, differences, a comparison, and their
texts. Floats are one instance; exact rationals are another, on which sums and comparisons obey the usual laws.
-/

namespace GoalPlanner

/-- Numbers that measure actions and goals. -/
class Cost (κ : Type) extends Zero κ, Add κ, Sub κ, Neg κ, LT κ, BEq κ where
  decidableLT : DecidableLT κ
  /-- A count as a number. -/
  count : Nat → κ
  /-- Whether a path may cost this much: infinities and what is no number are out of bounds. -/
  bounded : κ → Bool
  /-- The number in full. -/
  text : κ → String
  /-- The number with two places. -/
  twoPlaces : κ → String

namespace Cost

instance (priority := low) {κ : Type} [Cost κ] : DecidableLT κ := decidableLT

instance : Cost Float where
  zero := 0
  decidableLT := inferInstance
  count := Float.ofNat
  bounded x := x < 1 / 0
  text := Decimal.floatText
  twoPlaces := Decimal.twoPlaces

instance : Cost Rat where
  zero := 0
  decidableLT := inferInstance
  count n := n
  bounded _ := true
  text := toString
  twoPlaces q :=
    let hundredths := Decimal.roundDiv (q.num.natAbs * 100) q.den
    (if q < 0 then "-" else "") ++ String.ofList (Decimal.natText (hundredths / 100)) ++ "."
      ++ String.ofList (Decimal.padded 2 (hundredths % 100))

variable {κ : Type} [Cost κ]

/-- The sum of a list of numbers, from the left. -/
def sum (xs : List κ) : κ := xs.foldl (· + ·) 0

end Cost

end GoalPlanner
