/-!
# Ratios of 53 significant bits

Ratios of natural numbers, and their rounding to the nearest ratio whose
numerator has 53 bits over a power of two; of two that are equally near, the one
with the even numerator counts.
-/

namespace FieldSurvey.Number

/-- A ratio of natural numbers; the denominator is not zero in what follows. -/
structure Ratio where
  numerator : Nat
  denominator : Nat := 1
  deriving DecidableEq, Repr

namespace Ratio

/-- The product of two ratios. -/
def mul (a b : Ratio) : Ratio :=
  { numerator := a.numerator * b.numerator, denominator := a.denominator * b.denominator }

/-- The nearest natural number, a half going upwards. -/
def rounded (ratio : Ratio) : Nat :=
  (2 * ratio.numerator + ratio.denominator) / (2 * ratio.denominator)

/-- The nearest natural number, a half going to the even neighbour. -/
def roundedToEven (ratio : Ratio) : Nat :=
  let whole := ratio.numerator / ratio.denominator
  let twice := 2 * (ratio.numerator % ratio.denominator)
  if twice < ratio.denominator then whole
  else if ratio.denominator < twice then whole + 1
  else if whole % 2 = 0 then whole
  else whole + 1

/-- The ratio times a power of two. -/
def shifted (ratio : Ratio) (exponent : Int) : Ratio :=
  { numerator := ratio.numerator * Nat.pow 2 exponent.toNat
    denominator := ratio.denominator * Nat.pow 2 (-exponent).toNat }

/-- The number of significant bits. -/
def precision : Nat :=
  53

/-- The power of two that brings the whole part of a ratio to 53 bits. -/
def scale (ratio : Ratio) : Int :=
  let guess : Int := (precision : Int) + ratio.denominator.log2 - ratio.numerator.log2
  let whole := (ratio.shifted guess).numerator / (ratio.shifted guess).denominator
  if Nat.pow 2 precision ≤ whole then guess - 1 else guess

/-- The nearest ratio of 53 significant bits. -/
def significant (ratio : Ratio) : Ratio :=
  let exponent := ratio.scale
  ({ numerator := (ratio.shifted exponent).roundedToEven } : Ratio).shifted (-exponent)

end Ratio

end FieldSurvey.Number
