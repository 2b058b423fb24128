/-!
# Texts

Texts are trimmed and cut as lists of characters, and bytes are written as texts.
-/

namespace FieldSurvey.Text

/-! ## Blank space

A character is blank when it has the `White_Space` property, which is a wider
set than the ASCII spaces.  Trimming removes blanks from the ends of a text and
leaves those inside it.
-/

/-- The `White_Space` property. -/
def isBlank (c : Char) : Bool :=
  let n := c.toNat
  (9 ≤ n && n ≤ 13) || n == 0x20 || n == 0x85 || n == 0xA0 || n == 0x1680 ||
    (0x2000 ≤ n && n ≤ 0x200A) || n == 0x2028 || n == 0x2029 || n == 0x202F ||
    n == 0x205F || n == 0x3000

/-- Drops the blanks in front. -/
def trimStart (cs : List Char) : List Char :=
  cs.dropWhile isBlank

/-- Drops the blanks at the end. -/
def trimEnd (cs : List Char) : List Char :=
  (cs.reverse.dropWhile isBlank).reverse

/-- Drops the blanks at both ends. -/
def trim (cs : List Char) : List Char :=
  trimEnd (trimStart cs)

/-- `trim` on strings. -/
def trimmed (text : String) : String :=
  String.ofList (trim text.toList)

/-- A text that is empty or all blank. -/
def isAllBlank (text : String) : Bool :=
  text.toList.all isBlank

/-- The maximal blank-free pieces of a text. -/
def words (cs : List Char) : List (List Char) :=
  (cs.splitOnP isBlank).filter fun piece => !piece.isEmpty

/-! ## Cutting

Cutting at the first occurrence of a character, and cutting into lines.
-/

/-- The parts before and after the first `mark`, if there is one. -/
def splitOnce (mark : Char) : List Char → Option (List Char × List Char)
  | [] => none
  | c :: rest =>
    if c = mark then some ([], rest)
    else (splitOnce mark rest).map fun (before, after) => (c :: before, after)

/-- The parts before and after the last `mark`, if there is one. -/
def splitLast (mark : Char) (cs : List Char) : Option (List Char × List Char) :=
  (splitOnce mark cs.reverse).map fun (after, before) => (before.reverse, after.reverse)

/-- Removes `start` from the front of a text that begins with it. -/
def dropStart? (start : List Char) (cs : List Char) : Option (List Char) :=
  if start.isPrefixOf cs then some (cs.drop start.length) else none

/-- The part of a text in front of the first occurrence of `mark`, or the
whole text. -/
def before (mark : List Char) : List Char → List Char
  | [] => []
  | c :: rest => if mark.isPrefixOf (c :: rest) then [] else c :: before mark rest

/-- A line without the carriage return that ends it. -/
def withoutReturn (line : List Char) : List Char :=
  match line.reverse with
  | '\r' :: rest => rest.reverse
  | _ => line

/-- The lines of a text.  A line ends with a line feed, which may follow a
carriage return; the last one may lack it. -/
def lines (cs : List Char) : List (List Char) :=
  let pieces := cs.splitOn '\n'
  match pieces.getLast? with
  | some [] => pieces.dropLast.map withoutReturn
  | some last => pieces.dropLast.map withoutReturn ++ [last]
  | none => []

/-- ASCII upper case letters become lower case; every other character stays. -/
def lowerAscii (c : Char) : Char :=
  if 'A' ≤ c ∧ c ≤ 'Z' then Char.ofNat (c.toNat + 32) else c

/-- Equality up to the case of ASCII letters. -/
def sameIgnoringAsciiCase (a b : String) : Bool :=
  a.toList.map lowerAscii == b.toList.map lowerAscii

/-! ## Bytes

Bytes are written as two hexadecimal digits each, in lower or upper case.
-/

/-- The digit of a value below sixteen. -/
def hexDigit (upper : Bool) (value : Nat) : Char :=
  if value < 10 then Char.ofNat ('0'.toNat + value)
  else if upper then Char.ofNat ('A'.toNat + (value - 10))
  else Char.ofNat ('a'.toNat + (value - 10))

/-- The two digits of a byte. -/
def hexByte (upper : Bool) (byte : UInt8) : List Char :=
  [hexDigit upper (byte.toNat / 16), hexDigit upper (byte.toNat % 16)]

/-- The digits of a list of bytes. -/
def hex (upper : Bool) (bytes : List UInt8) : String :=
  String.ofList (bytes.flatMap (hexByte upper))

end FieldSurvey.Text
