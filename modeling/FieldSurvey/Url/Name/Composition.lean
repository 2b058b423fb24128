import FieldSurvey.Url.Name.CompositionTable
import FieldSurvey.Url.Name.Mark

/-!
# Composed texts

A letter and its marks may be written as one composite character or one after the
other.  A text is composed if its marks stand in the order of their ranks and
everything that can be one character is one.  `composed` brings a text into that
form: composite characters are taken apart, the marks are put in order, and what
fits is put together again.
-/

namespace FieldSurvey.Url.Name

namespace Hangul

/-- The first syllable. -/
def firstSyllable : Nat := 0xAC00

/-- The first of nineteen leading consonants. -/
def firstLead : Nat := 0x1100

/-- The first of twenty-one vowels. -/
def firstVowel : Nat := 0x1161

/-- What stands before the first of twenty-seven trailing consonants. -/
def noTrail : Nat := 0x11A7

/-- The parts of a syllable: a shorter syllable and a trailing consonant, or a
leading consonant and a vowel. -/
def parts? (n : Nat) : Option (Nat × Nat) :=
  if n < firstSyllable ∨ firstSyllable + 11172 ≤ n then none
  else
    let index := n - firstSyllable
    if index % 28 = 0 then
      some (firstLead + index / 588, firstVowel + index % 588 / 28)
    else some (n - index % 28, noTrail + index % 28)

/-- The syllable that two characters make. -/
def whole? (a b : Nat) : Option Nat :=
  if firstLead ≤ a ∧ a < firstLead + 19 ∧ firstVowel ≤ b ∧ b < firstVowel + 21 then
    some (firstSyllable + ((a - firstLead) * 21 + (b - firstVowel)) * 28)
  else if firstSyllable ≤ a ∧ a < firstSyllable + 11172 ∧ (a - firstSyllable) % 28 = 0 ∧
      noTrail < b ∧ b < noTrail + 28 then
    some (a + (b - noTrail))
  else none

end Hangul

/-- The two parts of a composite character. -/
def parts? (n : Nat) : Option (Nat × Nat) :=
  match CompositionTable.rows.find? fun row => row.1 == n with
  | some (_, first, second) => some (first, second)
  | none => Hangul.parts? n

/-- The composite character that two characters make. -/
def whole? (a b : Char) : Option Char :=
  match CompositionTable.rows.find? fun row => row.2 == (a.toNat, b.toNat) with
  | some (composite, _) => some (Char.ofNat composite)
  | none => (Hangul.whole? a.toNat b.toNat).map Char.ofNat

/-- How often the first part of a composite character may be composite itself. -/
def deepestComposite : Nat := 4

/-- The characters of a composite one, down to those that have no parts. -/
def takenApart : (depth : Nat) → Nat → List Char
  | 0, n => [Char.ofNat n]
  | depth + 1, n =>
    match parts? n with
    | some (first, second) => takenApart depth first ++ [Char.ofNat second]
    | none => [Char.ofNat n]

/-- Puts a character behind others, which stand in reverse.  A mark steps over the
marks of higher rank. -/
def putInOrder (c : Char) : List Char → List Char
  | [] => [c]
  | last :: rest =>
    if 0 < rank c ∧ rank c < rank last then last :: putInOrder c rest else c :: last :: rest

/-- A text in which nothing is composite and all marks are in order. -/
def decomposed (cs : List Char) : List Char :=
  ((cs.flatMap fun c => takenApart deepestComposite c.toNat).foldl
    (fun done c => putInOrder c done) []).reverse

/-- Puts a text together.  `letter` is the last letter so far, and `marks` holds the
marks behind it, in reverse.  A mark reaches its letter unless a mark of its own
rank or of a higher one stands between them. -/
def composeAfter (letter : Char) (marks : List Char) : List Char → List Char
  | [] => letter :: marks.reverse
  | c :: rest =>
    let isFree := marks.head?.all fun last => rank last < rank c
    match if isFree then whole? letter c else none with
    | some composite => composeAfter composite marks rest
    | none =>
      if rank c = 0 then letter :: marks.reverse ++ composeAfter c [] rest
      else composeAfter letter (c :: marks) rest

/-- Puts a text together from its first letter on. -/
def compose : List Char → List Char
  | [] => []
  | c :: rest => if rank c = 0 then composeAfter c [] rest else c :: compose rest

/-- The composed form of a text. -/
def composed (cs : List Char) : List Char :=
  compose (decomposed cs)

end FieldSurvey.Url.Name
