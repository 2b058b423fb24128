import FieldSurvey.Text.Basic

/-!
# Punycode

A label with characters beyond ASCII is written in ASCII: first its ASCII
characters, then, after a hyphen, numbers in base thirty-six that say where the
other characters are put in, from the smallest code point to the largest.  The
digits of a number stand from low to high, and a digit below its threshold is the
last one.  The thresholds follow the sizes of the numbers.
-/

namespace FieldSurvey.Url.Name.Punycode

/-- The digit of a value below thirty-six. -/
def digit (value : Nat) : Char :=
  if value < 26 then Char.ofNat ('a'.toNat + value) else Char.ofNat ('0'.toNat + (value - 26))

/-- The value of a digit. -/
def digitValue? (c : Char) : Option Nat :=
  if 'a' ≤ c ∧ c ≤ 'z' then some (c.toNat - 'a'.toNat)
  else if 'A' ≤ c ∧ c ≤ 'Z' then some (c.toNat - 'A'.toNat)
  else if '0' ≤ c ∧ c ≤ '9' then some (c.toNat - '0'.toNat + 26)
  else none

/-- The threshold of the digit at a position, which is counted in steps of
thirty-six. -/
def threshold (bias position : Nat) : Nat :=
  if position ≤ bias then 1 else min 26 (position - bias)

/-- A threshold is not zero. -/
theorem threshold_pos (bias position : Nat) : 0 < threshold bias position := by
  unfold threshold
  split <;> omega

/-- The bias that a reduced difference leads to. -/
def biasFrom (base delta : Nat) : Nat :=
  if 455 < delta then biasFrom (base + 36) (delta / 35)
  else base + 36 * delta / (delta + 38)
termination_by delta
decreasing_by omega

/-- The bias after a number, when there are `count` characters. -/
def nextBias (isFirst : Bool) (count delta : Nat) : Nat :=
  let reduced := if isFirst then delta / 700 else delta / 2
  biasFrom 0 (reduced + reduced / count)

/-- The digits of a number. -/
def digits (bias position value : Nat) : List Char :=
  if value < threshold bias position then [digit value]
  else
    digit (threshold bias position +
        (value - threshold bias position) % (36 - threshold bias position)) ::
      digits bias (position + 36)
        ((value - threshold bias position) / (36 - threshold bias position))
termination_by value
decreasing_by
  have := threshold_pos bias position
  exact Nat.lt_of_le_of_lt (Nat.div_le_self _ _) (by omega)

/-- What is known while a label is being written. -/
structure Writing where
  /-- the digits so far, in reverse -/
  written : List Char := []
  /-- the difference to the last number -/
  delta : Nat := 0
  bias : Nat := 72
  /-- the number of characters that are written -/
  count : Nat

/-- Passes over one character of the label while characters of one code point are
being written. -/
def Writing.pass (basic code : Nat) (writing : Writing) (c : Char) : Writing :=
  if c.toNat < code then { writing with delta := writing.delta + 1 }
  else if c.toNat = code then
    { written := (digits writing.bias 36 writing.delta).reverse ++ writing.written
      bias := nextBias (writing.count == basic) (writing.count + 1) writing.delta
      count := writing.count + 1 }
  else writing

/-- Writes all characters of the given code points, which ascend; `next` is the
smallest one that may still come. -/
def Writing.passAll (label : List Char) (basic : Nat) :
    (next : Nat) → List Nat → Writing → Writing
  | _, [], writing => writing
  | next, code :: rest, writing =>
    let delta := writing.delta + (code - next) * (writing.count + 1)
    let writing := label.foldl (pass basic code) { writing with delta }
    passAll label basic (code + 1) rest { writing with delta := writing.delta + 1 }

/-- Inserts a number into others that ascend, unless it is one of them. -/
def insertOnce (n : Nat) : List Nat → List Nat
  | [] => [n]
  | first :: rest =>
    if n < first then n :: first :: rest
    else if n = first then first :: rest
    else first :: insertOnce n rest

/-- The ASCII form of a label. -/
def encode (label : List Char) : List Char :=
  let basic := label.filter fun c => c.toNat < 0x80
  let codes := (label.filter fun c => 0x80 ≤ c.toNat).foldr
    (fun c codes => insertOnce c.toNat codes) []
  let writing :=
    Writing.passAll label basic.length 0x80 codes { count := basic.length }
  basic ++ (if basic.isEmpty then [] else ['-']) ++ writing.written.reverse

/-- A number at the beginning of a text, on top of what the digits before it
amount to. -/
def number? (bias position weight value : Nat) :
    (cs : List Char) → Option (Nat × { rest : List Char // rest.length < cs.length })
  | [] => none
  | c :: rest =>
    match digitValue? c with
    | none => none
    | some d =>
      let value := value + d * weight
      if d < threshold bias position then some (value, ⟨rest, by simp⟩)
      else
        (number? bias (position + 36) (weight * (36 - threshold bias position)) value rest).map
          fun (value, ⟨left, shorter⟩) => (value, ⟨left, by simp; omega⟩)

/-- Puts the characters that numbers stand for into a label.  `code` is the last
code point, and `place` the place after it. -/
def insertAll (bias code place : Nat) (label : List Char) (cs : List Char) : Option (List Char) :=
  if cs.isEmpty then some label
  else
    match number? bias 36 1 0 cs with
    | none => none
    | some (delta, ⟨rest, _⟩) =>
      let count := label.length + 1
      let code' := code + (place + delta) / count
      let place' := (place + delta) % count
      if code'.isValidChar then
        insertAll (nextBias (place == 0) count delta) code' (place' + 1)
          (label.take place' ++ Char.ofNat code' :: label.drop place') rest
      else none
termination_by cs.length

/-- The label of an ASCII form.  What stands before the last hyphen is kept, unless
it is empty. -/
def decode? (cs : List Char) : Option (List Char) :=
  match Text.splitLast '-' cs with
  | some (c :: basic, rest) => insertAll 72 0x80 0 (c :: basic) rest
  | _ => insertAll 72 0x80 0 [] cs

end FieldSurvey.Url.Name.Punycode
