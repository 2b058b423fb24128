import FieldSurvey.Number.Decimal

/-!
# Numbers of double precision

A double is a natural number of at most 53 bits times a power of two, with a
sign, or it is infinite, or no number at all.  A literal stands for the nearest
double, and a double is written with the fewest digits that stand for it.
-/

namespace FieldSurvey.Number

/-- A number of double precision. -/
inductive Double where
  /-- `mantissa` times two to the power of `exponent` -/
  | finite (isNegative : Bool) (mantissa : Nat) (exponent : Int)
  | infinite (isNegative : Bool)
  | nan
  deriving DecidableEq, Repr

namespace Double

/-- Whether a double is a number that is not infinite. -/
def isFinite : Double → Bool
  | finite .. => true
  | _ => false

/-- The least power of two in which a double is counted. -/
def leastExponent : Int := -1074

/-- The greatest power of two in which a double is counted. -/
def greatestExponent : Int := 971

/-- The number that a mantissa of 53 bits first exceeds. -/
def mantissaBound : Nat := Nat.pow 2 Ratio.precision

/-- The double of a rounded mantissa.  Rounding upwards may have given it one bit
too many, which is then a zero. -/
def normal (isNegative : Bool) (mantissa : Nat) (exponent : Int) : Double :=
  let (mantissa, exponent) :=
    if mantissa < mantissaBound then (mantissa, exponent) else (mantissa / 2, exponent + 1)
  if greatestExponent < exponent then .infinite isNegative
  else .finite isNegative mantissa exponent

/-- The double that is nearest to a ratio, the even one of two. -/
def ofRatio (isNegative : Bool) (ratio : Ratio) : Double :=
  if ratio.numerator = 0 then .finite isNegative 0 leastExponent
  else
    let exponent := max (-ratio.scale) leastExponent
    normal isNegative (ratio.shifted (-exponent)).roundedToEven exponent

/-- The literals without a sign that have no digits. -/
def word? (isNegative : Bool) (cs : List Char) : Option Double :=
  let lower := cs.map Char.toLower
  if lower = "inf".toList ∨ lower = "infinity".toList then some (.infinite isNegative)
  else if lower = "nan".toList then some .nan
  else none

/-- The double of a literal: a sign, which may be missing, and a decimal or a
word. -/
def read? (cs : List Char) : Option Double :=
  let (isNegative, cs) := Decimal.signed cs
  match word? isNegative cs with
  | some double => some double
  | none => (Decimal.read? cs).map fun decimal => ofRatio isNegative decimal.ratio

/-- The ratios that round to one double: those from `low` to `high`, or strictly
between them if the double is odd. -/
structure Neighbourhood where
  low : Ratio
  value : Ratio
  high : Ratio
  isClosed : Bool

/-- The ratios that round to a mantissa at an exponent.  Below a power of two the
doubles are twice as close. -/
def neighbourhood (mantissa : Nat) (exponent : Int) : Neighbourhood :=
  let quarters (count : Nat) := ({ numerator := count } : Ratio).shifted (exponent - 2)
  let below := if 2 * mantissa = mantissaBound then 1 else 2
  { low := quarters (4 * mantissa - below)
    value := quarters (4 * mantissa)
    high := quarters (4 * mantissa + 2)
    isClosed := mantissa % 2 = 0 }

namespace Neighbourhood

/-- Whether a ratio is at most another one, or below it. -/
def precedes (isClosed : Bool) (a b : Ratio) : Bool :=
  let left := a.numerator * b.denominator
  let right := b.numerator * a.denominator
  if isClosed then left ≤ right else left < right

/-- Whether a decimal rounds to the double. -/
def holds (near : Neighbourhood) (decimal : Decimal) : Bool :=
  precedes near.isClosed near.low decimal.ratio && precedes near.isClosed decimal.ratio near.high

/-- The decimal of a power of ten that rounds to the double, if there is one; the
nearer one of two, and the greater one of two that are equally near. -/
def decimal? (near : Neighbourhood) (power : Int) : Option Decimal :=
  let unit : Ratio := Decimal.ratio ⟨1, power⟩
  let scaled := near.value.mul { numerator := unit.denominator, denominator := unit.numerator }
  let whole := scaled.numerator / scaled.denominator
  let isUpper := scaled.denominator ≤ 2 * (scaled.numerator % scaled.denominator)
  let floor : Decimal := ⟨whole, power⟩
  let ceiling : Decimal := ⟨whole + 1, power⟩
  match near.holds floor, near.holds ceiling with
  | true, true => some (if isUpper then ceiling else floor)
  | true, false => some floor
  | false, true => some ceiling
  | false, false => none

/-- The first decimal that rounds to the double when powers of ten are tried
downwards. -/
def search? (near : Neighbourhood) : (steps : Nat) → (power : Int) → Option Decimal
  | 0, _ => none
  | steps + 1, power =>
    match near.decimal? power with
    | some decimal => some decimal
    | none => near.search? steps (power - 1)

end Neighbourhood

/-- The greatest power of ten below all infinities. -/
def greatestPower : Int := 308

/-- More powers of ten than the digits of a double can need. -/
def powers : Nat := 700

/-- The decimal of fewest digits that rounds to a double. -/
def shortest (mantissa : Nat) (exponent : Int) : Decimal :=
  if mantissa = 0 then ⟨0, 0⟩
  else ((neighbourhood mantissa exponent).search? powers greatestPower).getD ⟨0, 0⟩

/-- The text of a sign. -/
def signText (isNegative : Bool) : String :=
  if isNegative then "-" else ""

/-- The text of a double. -/
def toText : Double → String
  | .finite isNegative mantissa exponent =>
    signText isNegative ++ (shortest mantissa exponent).toText
  | .infinite isNegative => signText isNegative ++ "inf"
  | .nan => "NaN"

/-- The integer between two bounds that is nearest to a double, a half going away
from zero.  What is no number is zero. -/
def clamped (low high : Int) : Double → Int
  | .finite isNegative mantissa exponent =>
    let size := Int.ofNat (({ numerator := mantissa } : Ratio).shifted exponent).rounded
    max low (min high (if isNegative then -size else size))
  | .infinite isNegative => if isNegative then low else high
  | .nan => 0

end Double

end FieldSurvey.Number
