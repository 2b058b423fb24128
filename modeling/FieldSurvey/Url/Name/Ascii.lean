import FieldSurvey.Number.Literal
import FieldSurvey.Text.Basic
import FieldSurvey.Url.Name.Composition
import FieldSurvey.Url.Name.Label
import FieldSurvey.Url.Name.MappingTable
import FieldSurvey.Url.Name.Punycode
import FieldSurvey.Url.Name.RefusalTable

/-!
# Names in ASCII

A name of any script has one form in ASCII.  It is not told from another name by
capitals or by compatibility forms: each character is replaced by the characters that
stand for it, some do not count at all, and some are refused.  The text is composed and
divided into labels at its points, and each label that is not ASCII is written in
Punycode after `xn--`.  A label that begins with `xn--` already is one of those, and has
to stand for a label that would be written in that way.
-/

namespace FieldSurvey.Url.Name

/-! ## Characters -/

/-- The number that hexadecimal digits stand for. -/
def hexValue (digits : List Char) : Nat :=
  digits.foldl (fun value c => value * 16 + (Number.digitValue? c).getD 0) 0

/-- What stands in the place of a character of a regular run. -/
def shifted? (n : Nat) : Option (List Char) :=
  (MappingTable.shifts.find? fun row =>
    row.first ≤ n && n ≤ row.last && (n - row.first) % row.step == 0).map
      fun row => [Char.ofNat (Int.ofNat n + row.shift).toNat]

/-- What stands in the place of a character that is listed by itself. -/
def listed? (n : Nat) : Option (List Char) := do
  let row ← MappingTable.images.find? fun row => row.first ≤ n && n ≤ row.last
  let word ← (row.words.toList.splitOn ' ')[n - row.first]?
  if word = ['.'] then none
  else some ((word.splitOn '+').map fun digits => Char.ofNat (hexValue digits))

/-- Whether a character lies in one of the rows. -/
def liesIn (rows : List (Nat × Nat)) (n : Nat) : Bool :=
  rows.any fun (first, last) => first ≤ n && n ≤ last

/-- What stands in the place of a character; nothing if it is refused. -/
def image? (c : Char) : Option (List Char) :=
  if c.toNat < 0x80 then some [Text.lowerAscii c]
  else
    match shifted? c.toNat <|> listed? c.toNat with
    | some image => some image
    | none =>
      if liesIn RefusalTable.refused c.toNat then none
      else if liesIn RefusalTable.ignored c.toNat then some []
      else some [c]

/-- Whether a character stands for itself. -/
def isPlain (c : Char) : Bool :=
  image? c == some [c]

/-! ## Labels -/

/-- The longest label that is written in Punycode. -/
def longestLabel : Nat := 1000

/-- The longest text after `xn--` that is read. -/
def longestCode : Nat := 2000

/-- Whether a text is ASCII. -/
def isAscii (cs : List Char) : Bool :=
  cs.all fun c => c.toNat < 0x80

/-- What follows `xn--` in a label that begins with it. -/
def codeOf? : List Char → Option (List Char)
  | 'x' :: 'n' :: '-' :: '-' :: code => some code
  | _ => none

/-- The label that a code stands for.  It is not ASCII, it does not look like a code
itself, and nothing in it would be replaced. -/
def ofCode? (code : List Char) : Option (List Char) := do
  if code.getLast? == some '-' || longestCode < code.length then none
  else
    let label ← Punycode.decode? code
    if !isAscii label && (codeOf? label).isNone && label.all isPlain && composed label == label then
      some label
    else none

/-- The label that is meant by a written one. -/
def meant? (label : List Char) : Option (List Char) :=
  match codeOf? label with
  | some code => ofCode? code
  | none => some label

/-- The ASCII form of a label. -/
def labelAscii (label : List Char) : List Char :=
  if isAscii label then label else "xn--".toList ++ Punycode.encode label

/-- Whether a label is sound and not too long. -/
def fits (label : List Char) : Bool :=
  isSound label && (isAscii label || label.length ≤ longestLabel)

/-- The ASCII form of a name. -/
def ascii? (name : List Char) : Option (List Char) := do
  let images ← name.mapM image?
  let labels ← ((composed images.flatten).splitOn '.').mapM meant?
  let isTurned := labels.any fun label => label.any turnsName
  if labels.all fits && (!isTurned || labels.all keepsDirection) then
    some (['.'].intercalate (labels.map labelAscii))
  else none

end FieldSurvey.Url.Name
