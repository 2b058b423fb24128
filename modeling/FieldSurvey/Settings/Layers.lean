import FieldSurvey.Document.Dialect
import FieldSurvey.Settings.Scalar
import FieldSurvey.Text.Basic

/-!
# Settings in layers

Settings may be laid over each other: those of a file, and over them those of
the environment, where `UASCOUT__A__B` stands for the field `b` of `a`.  Scalars
of both have a kind as soon as they are read, but a reader who wants another
kind gets it where that makes sense.
-/

namespace FieldSurvey.Settings

/-- A text with a dot in place of two underscores. -/
def dotted : List Char → List Char
  | '_' :: '_' :: rest => '.' :: dotted rest
  | c :: rest => c :: dotted rest
  | [] => []

/-- How the names of variables begin, in lower case. -/
def variableStart : List Char := "uascout__".toList

/-- The path that the name of a variable stands for, if it is one of the
settings. -/
def pathOfVariable? (name : String) : Option Path :=
  (Text.dropStart? variableStart (Text.lower name.toList)).map fun rest =>
    Path.ofText (dotted rest)

/-- Lays a value over what a path leads to in a document. -/
def lay (path : Path) (value below : Document) : Document :=
  layAt path value (some below)

/-- Lays the variables of the environment over a document. -/
def layVariables (environment : List (String × String)) (below : Document) : Document :=
  environment.foldl (fun below (name, text) =>
    match pathOfVariable? name with
    | some path => lay path (ofVariable text) below
    | none => below) below

/-- Lays the fields of a file over an empty record; their names may be paths. -/
def ofFields (entries : List (String × Document)) : Document :=
  entries.foldl (fun below (name, value) => lay (Path.ofText name.toList) value below) (.record [])

/-- The least and the greatest number of 64 bits without a sign. -/
def naturalBounds : Int × Int := (0, 0xFFFFFFFFFFFFFFFF)

/-- The least and the greatest number of 64 bits in two's complement. -/
def integerBounds : Int × Int := (-0x8000000000000000, 0x7FFFFFFFFFFFFFFF)

/-- The number that a text, in some case, stands for. -/
def numberOfText? (text : String) : Option Int :=
  let lower := Text.lowered text
  if ["true", "on", "yes"].contains lower then some 1
  else if ["false", "off", "no"].contains lower then some 0
  else Number.Decimal.integer? text.toList

/-- The number between two bounds that a scalar is read as.  Reals are brought
between the bounds, and everything else must be there. -/
def numberOf? (bounds : Int × Int) (document : Document) : Option Int :=
  let bounded (value : Int) := if bounds.1 ≤ value ∧ value ≤ bounds.2 then some value else none
  match document with
  | .integer value => bounded value
  | .text value => (numberOfText? value).bind bounded
  | .bool value => some (if value then 1 else 0)
  | .real value => some (value.clamped bounds.1 bounds.2)
  | _ => none

/-- Whether a document is a text with a minus, which no natural number has, not even
zero. -/
def isNegativeText : Document → Bool
  | .text value => value.toList.head? == some '-'
  | _ => false

/-- Layered settings: scalars are read as another kind where that makes sense,
the names of variants are written in any case, and lists may be longer than the
records they are read as. -/
def layered : Dialect where
  isNull
    | .null => true
    | _ => false
  text?
    | .text value => some value
    | .integer value => some (toString value)
    | .bool value => some (if value then "true" else "false")
    | .real value => some value.toText
    | _ => none
  natural? bits document :=
    if isNegativeText document then none
    else ((numberOf? naturalBounds document).filter (fitsUnsigned bits)).map Int.toNat
  integer? bits document := (numberOf? integerBounds document).filter (fitsSigned bits)
  variant?
    | .text value => some value
    | .record [(name, _)] => some name
    | _ => none
  names name text := Text.lowered name == Text.lowered text
  list?
    | .list items => some items
    | _ => none
  fields?
    | .record entries => some (.named entries)
    | .list items => some (.positional items)
    | _ => none
  ignoresRest := true

end FieldSurvey.Settings
