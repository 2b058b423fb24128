import FieldSurvey.Document.Dialect
import FieldSurvey.Document.Yaml.Reader
import FieldSurvey.Number.Literal

/-!
# Reading values from YAML

The kind of a plain scalar is left to whoever reads it: it is a text for one
reader and a number for another.  Quoted scalars are texts.  An empty scalar is
also an empty list or record.
-/

namespace FieldSurvey

namespace Yaml

/-- The plain scalars that stand for no value. -/
def isNull (text : String) : Bool :=
  ["", "~", "null", "Null", "NULL"].contains text

/-- Whether digits begin with a needless zero, which makes them a text. -/
def hasNeedlessZero (digits : List Char) : Bool :=
  digits.length > 1 && digits.head? == some '0' && digits.all Char.isDigit

/-- The base of a number and its digits. -/
def baseOf : List Char → Nat × List Char
  | '0' :: 'x' :: rest => (16, rest)
  | '0' :: 'o' :: rest => (8, rest)
  | '0' :: 'b' :: rest => (2, rest)
  | cs => (10, cs)

/-- The number of digits in a base. -/
def magnitude? (cs : List Char) : Option Nat :=
  let (base, digits) := baseOf cs
  if digits.isEmpty || hasNeedlessZero cs then none
  else (digits.mapM (Number.digitIn? base)).map fun values =>
    values.foldl (fun value digit => value * base + digit) 0

/-- The integer that a plain scalar stands for. -/
def integer? (text : String) : Option Int :=
  match text.toList with
  | '+' :: cs => (magnitude? cs).map Int.ofNat
  | '-' :: cs => (magnitude? cs).map fun value => -Int.ofNat value
  | cs => (magnitude? cs).map Int.ofNat

end Yaml

/-- YAML: plain scalars are what the reader wants them to be. -/
def Dialect.yaml : Dialect where
  isNull
    | .plain value => Yaml.isNull value
    | _ => false
  text?
    | .text value => some value
    | .plain value => some value
    | _ => none
  natural? bits
    | .plain value => (Yaml.integer? value).bind fun number =>
      if value.toList.head? ≠ some '-' && fitsUnsigned bits number then some number.toNat else none
    | _ => none
  integer? bits
    | .plain value => (Yaml.integer? value).bind fun number =>
      if fitsSigned bits number then some number else none
    | _ => none
  variant?
    | .text value => some value
    | .plain value => some value
    | _ => none
  names name text := name == text
  list?
    | .list items => some items
    | .plain "" => some []
    | _ => none
  fields?
    | .record entries => some (.named entries)
    | .plain "" => some (.named [])
    | _ => none
  ignoresRest := false

end FieldSurvey
