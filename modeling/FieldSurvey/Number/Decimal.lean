import FieldSurvey.Number.Binary
import FieldSurvey.Number.Literal

/-!
# Decimal fractions

A decimal fraction is a natural number times a power of ten.  Its literals have
digits with a point among them, and it is written in full, without a power and
without needless zeros.
-/

namespace FieldSurvey.Number

/-- `mantissa` times ten to the power of `exponent`. -/
structure Decimal where
  mantissa : Nat
  exponent : Int
  deriving DecidableEq, Repr

namespace Decimal

/-- The number of a run of digits. -/
def ofDigits (digits : List Char) : Nat :=
  digits.foldl (fun value c => value * 10 + (c.toNat - '0'.toNat)) 0

/-- Whether a text begins with a minus, and the text after its sign. -/
def signed : List Char → Bool × List Char
  | '-' :: rest => (true, rest)
  | '+' :: rest => (false, rest)
  | cs => (false, cs)

/-- An integer with an optional sign. -/
def integer? (cs : List Char) : Option Int :=
  let (isNegative, digits) := signed cs
  if digits.isEmpty || !digits.all Char.isDigit then none
  else some (if isNegative then -Int.ofNat (ofDigits digits) else Int.ofNat (ofDigits digits))

/-- The power of ten at the end of a literal, zero if there is none. -/
def power? : List Char → Option Int
  | [] => some 0
  | c :: rest => if c = 'e' ∨ c = 'E' then integer? rest else none

/-- Powers of ten beyond this size make every number of one digit vanish, or
leave all bounds. -/
def largestPower : Int := 400

/-- A literal without a sign: digits with a point among them, and a power of ten,
of which only some digits must be there.  A power that is out of all proportion
to the digits is cut down. -/
def read? (cs : List Char) : Option Decimal := do
  let whole := cs.takeWhile Char.isDigit
  let cs := cs.drop whole.length
  let fraction := match cs with
    | '.' :: rest => rest.takeWhile Char.isDigit
    | _ => []
  let cs := match cs with
    | '.' :: rest => rest.drop fraction.length
    | cs => cs
  if whole.isEmpty && fraction.isEmpty then none
  else
    let power ← power? cs
    let bound := largestPower + Int.ofNat (whole.length + fraction.length)
    some { mantissa := ofDigits (whole ++ fraction)
           exponent := max (-bound) (min bound power) - fraction.length }

/-- The ratio that a decimal is. -/
def ratio (decimal : Decimal) : Ratio :=
  { numerator := decimal.mantissa * Nat.pow 10 decimal.exponent.toNat
    denominator := Nat.pow 10 (-decimal.exponent).toNat }

/-- The digits without the zeros at their end. -/
def trimZeros (digits : List Char) : List Char :=
  (digits.reverse.dropWhile (· == '0')).reverse

/-- The text of a decimal. -/
def toText (decimal : Decimal) : String :=
  if 0 ≤ decimal.exponent then toString decimal.ratio.numerator
  else
    let places := (-decimal.exponent).toNat
    let unit := Nat.pow 10 places
    let fraction := digits (decimal.mantissa % unit)
    let padded := List.replicate (places - fraction.length) '0' ++ fraction
    let point := match trimZeros padded with
      | [] => ""
      | shown => "." ++ String.ofList shown
    toString (decimal.mantissa / unit) ++ point

end Decimal

end FieldSurvey.Number
