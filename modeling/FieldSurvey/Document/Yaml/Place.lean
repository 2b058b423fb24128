import FieldSurvey.Document.Yaml.Edition

/-!
# Places in a text

A place is what is left of a text, with the line and the column where that
begins.  Scalars are read within the surroundings of their first character, and
keep account of the gaps between their parts.
-/

namespace FieldSurvey.Yaml

/-- Where in a text something begins. -/
structure Mark where
  /-- the number of characters before -/
  index : Nat := 0
  line : Nat := 0
  column : Nat := 0
  /-- whether nothing but blanks stands before it on its line -/
  isFresh : Bool := true
  deriving DecidableEq, Repr

/-- The mark behind a character that stands at a mark. -/
def Mark.past (mark : Mark) (edition : Edition) (c : Char) : Mark :=
  if edition.isBreak c then
    { index := mark.index + 1, line := mark.line + 1, column := 0, isFresh := true }
  else
    { mark with
      index := mark.index + 1
      column := mark.column + 1
      isFresh := mark.isFresh && isSpace c }

/-- What is left of a text. -/
structure Place where
  mark : Mark := {}
  text : List Char
  deriving Repr

namespace Place

/-- The place behind a number of characters. -/
def drop (edition : Edition) : Nat → Place → Place
  | 0, place => place
  | count + 1, place =>
    match place.text with
    | [] => place
    | c :: rest => drop edition count ⟨place.mark.past edition c, rest⟩

/-- The place behind all characters of a kind. -/
def dropWhile (edition : Edition) (isKind : Char → Bool) (place : Place) : Place :=
  place.drop edition (place.text.takeWhile isKind).length

/-- The place behind blanks and a comment.  A comment must have a blank before
it. -/
def pastComment? (edition : Edition) (place : Place) : Option Place :=
  let next := place.dropWhile edition isSpace
  if next.text.head? != some '#' then some next
  else if next.mark.index = place.mark.index then none
  else some (next.dropWhile edition fun c => !edition.isBreak c)

end Place

/-- What the reading of a scalar depends on. -/
structure Surroundings where
  edition : Edition
  inFlow : Bool
  /-- the column of the innermost block, and -1 outside of all blocks -/
  indent : Int

/-- What stands between two parts of a scalar: blanks, or line breaks with blanks
around them. -/
structure Gap where
  blanks : List Char := []
  breaks : List Char := []
  /-- whether the line was broken by a backslash, which leaves nothing behind -/
  isEscaped : Bool := false
  deriving DecidableEq

namespace Gap

/-- Whether the line ends within the gap. -/
def isBroken (gap : Gap) : Bool :=
  gap.isEscaped || !gap.breaks.isEmpty

/-- Whether there is nothing in the gap. -/
def isEmpty (gap : Gap) : Bool :=
  !gap.isBroken && gap.blanks.isEmpty

/-- The characters that stand for a gap.  A single line break stands for a blank,
and of several ones the first counts for nothing. -/
def text (gap : Gap) : List Char :=
  match gap.breaks with
  | [] => gap.blanks
  | first :: more =>
    if gap.isEscaped || first != '\n' then first :: more
    else if more.isEmpty then [' ']
    else more

/-- The gap with one more blank, which counts only where the line goes on. -/
def withBlank (gap : Gap) (c : Char) : Gap :=
  if gap.isBroken then gap else { gap with blanks := gap.blanks ++ [c] }

/-- The gap with one more line break. -/
def withBreak (gap : Gap) (c : Char) : Gap :=
  { gap with blanks := [], breaks := gap.breaks ++ [c] }

end Gap

end FieldSurvey.Yaml
