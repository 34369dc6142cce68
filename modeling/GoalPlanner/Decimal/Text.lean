import GoalPlanner.Decimal.Shortest

/-!
# Numbers as text

How a float is written: in full (`floatText`, the shortest digits that read back) and with two places (`twoPlaces`).
-/

namespace GoalPlanner.Decimal

/-- The decisions of a full format: the exponents of the leading digit that are written out, and the least number of
digits of an exponent. -/
structure Layout where
  least : Int
  most : Int
  exponentDigits : Nat

/-- Numbers are written out from `0.0001` up to sixteen digits before the point; outside, with an exponent of two or
more digits. -/
def layout : Layout := ⟨-4, 15, 2⟩

/-- A natural in decimal. -/
def natText (n : Nat) : List Char := Nat.toDigits 10 n

/-- A natural in decimal with at least `width` digits. -/
def padded (width n : Nat) : List Char :=
  let digits := natText n
  List.replicate (width - digits.length) '0' ++ digits

/-- A decimal written out, with at least one digit on each side of the point. -/
def positional (digits : List Char) (exponent : Int) : List Char :=
  match exponent with
  | .ofNat e => digits ++ List.replicate e '0' ++ ['.', '0']
  | .negSucc e =>
    let places := e + 1
    if digits.length ≤ places then '0' :: '.' :: (List.replicate (places - digits.length) '0' ++ digits)
    else digits.take (digits.length - places) ++ '.' :: digits.drop (digits.length - places)

/-- A decimal with one digit before the point and an exponent. -/
def scientific (f : Layout) (digits : List Char) (lead : Int) : List Char :=
  let mantissa := match digits with
    | d :: e :: r => d :: '.' :: e :: r
    | ds => ds
  mantissa ++ 'e' :: (if lead < 0 then '-' else '+') :: padded f.exponentDigits lead.natAbs

/-- A decimal in a layout. -/
def Digits.text (f : Layout) (d : Digits) : List Char :=
  let digits := natText d.digits
  let lead := d.exponent + digits.length - 1
  if f.least ≤ lead && lead ≤ f.most then positional digits d.exponent else scientific f digits lead

/-- A float in full: the shortest digits that read back. -/
def floatText (x : Float) : String :=
  match Binary.ofFloat? x with
  | none => if x.isNaN then "nan" else if x < 0 then "-inf" else "inf"
  | some b =>
    let size := if b.significand == 0 then "0.0" else String.ofList ((shortest b).text layout)
    if b.negative then "-" ++ size else size

/-- The size of a finite float with two places, rounded from its exact value, a half to the even neighbour. -/
def Binary.twoPlaces (b : Binary) : List Char :=
  let hundredths := roundDiv (b.significand * Nat.pow 2 b.exponent.toNat * 100) (Nat.pow 2 (-b.exponent).toNat)
  natText (hundredths / 100) ++ '.' :: padded 2 (hundredths % 100)

/-- A float with two places; the sign of a negative number is kept even if all digits are zero. -/
def twoPlaces (x : Float) : String :=
  match Binary.ofFloat? x with
  | none => floatText x
  | some b => if b.negative then "-" ++ String.ofList b.twoPlaces else String.ofList b.twoPlaces

end GoalPlanner.Decimal
