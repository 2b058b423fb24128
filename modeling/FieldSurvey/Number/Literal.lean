/-!
# Bounded number literals

A literal of base ten or sixteen is an optional plus sign and at least one
digit.  Digits are consumed from the left, so the fault that is reported is the
first one met: a character that is no digit, or a value that has grown past the
bound.
-/

namespace FieldSurvey.Number

/-- Why a text is no literal of the wanted size. -/
inductive Fault where
  | empty
  | invalidDigit
  | tooLarge
  deriving DecidableEq, Repr

/-- The wording of a fault. -/
def Fault.message : Fault → String
  | .empty => "cannot parse integer from empty string"
  | .invalidDigit => "invalid digit found in string"
  | .tooLarge => "number too large to fit in target type"

/-- The value of a digit in base sixteen. -/
def digitValue? (c : Char) : Option Nat :=
  if '0' ≤ c ∧ c ≤ '9' then some (c.toNat - '0'.toNat)
  else if 'a' ≤ c ∧ c ≤ 'f' then some (c.toNat - 'a'.toNat + 10)
  else if 'A' ≤ c ∧ c ≤ 'F' then some (c.toNat - 'A'.toNat + 10)
  else none

/-- The value of a digit in the given base, which is at most sixteen. -/
def digitIn? (base : Nat) (c : Char) : Option Nat :=
  (digitValue? c).bind fun value => if value < base then some value else none

/-- Reads the remaining digits on top of the value read so far, keeping it at
or below `bound`. -/
def accumulate (base bound value : Nat) : List Char → Except Fault Nat
  | [] => .ok value
  | c :: rest =>
    match digitIn? base c with
    | none => .error .invalidDigit
    | some digit =>
      if value * base + digit ≤ bound then accumulate base bound (value * base + digit) rest
      else .error .tooLarge

/-- Reads an unsigned literal. -/
def readIn (base bound : Nat) : List Char → Except Fault Nat
  | [] => .error .empty
  | ['+'] => .error .invalidDigit
  | '+' :: digits => accumulate base bound 0 digits
  | digits => accumulate base bound 0 digits

/-- Reads an unsigned decimal literal that is at most `bound`. -/
def read (bound : Nat) (cs : List Char) : Except Fault Nat :=
  readIn 10 bound cs

/-- The decimal digits of a number. -/
def digits (n : Nat) : List Char :=
  Nat.toDigits 10 n

/-- The largest values of the word sizes that occur. -/
def maxByte : Nat := 0xFF

/-- The largest sixteen bit word. -/
def maxShort : Nat := 0xFFFF

/-- The largest 32 bit word. -/
def maxWord : Nat := 0xFFFFFFFF

/-- The largest 64 bit word. -/
def maxLong : Nat := 0xFFFFFFFFFFFFFFFF

end FieldSurvey.Number
