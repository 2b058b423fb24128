import FieldSurvey.Document.Dialect
import FieldSurvey.Number.Decimal
import FieldSurvey.Text.Lowercase

/-!
# Paths into settings

A path leads to a field, and from there on to fields and items of it, as in
`catalog[0].endpoints`.  A value may be laid over what a path leads to, which
need not be there before.  Fields are found, and laid, in lower case.
-/

namespace FieldSurvey.Settings

/-- A step from a value to a part of it. -/
inductive Step where
  | field (name : String)
  /-- an item, counted from the end if the number is negative -/
  | item (index : Int)
  deriving DecidableEq, Repr

/-- The steps from a record to a value, the first of which names a field. -/
abbrev Path := List Step

namespace Path

/-- Whether the name of a field may hold a character. -/
def isNameChar (c : Char) : Bool :=
  c.isAlphanum || c == '_' || c == '-' || c == ' '

/-- The step of a name at the beginning of a text, and the text after it. -/
def field? (cs : List Char) : Option (Step × List Char) :=
  let name := cs.takeWhile isNameChar
  if name.isEmpty then none else some (.field (String.ofList name), cs.drop name.length)

/-- Whether a blank may stand around the number of an item. -/
def isBlank (c : Char) : Bool :=
  c == ' ' || c == '\t'

/-- The step of an item at the beginning of a text that follows its bracket, and
the text after it. -/
def item? (cs : List Char) : Option (Step × List Char) := do
  let cs := cs.dropWhile isBlank
  let sign := cs.takeWhile (· == '-')
  let digits := (cs.drop sign.length).takeWhile Char.isDigit
  let index ← Number.Decimal.integer? (sign ++ digits)
  match (cs.drop (sign.length + digits.length)).dropWhile isBlank with
  | ']' :: rest => if fitsSigned 64 index then some (.item index, rest) else none
  | _ => none

/-- The steps that a text stands for. -/
def steps? (fuel : Nat) (cs : List Char) : Option Path :=
  match fuel, cs with
  | _, [] => some []
  | fuel + 1, '.' :: rest => do
    let (step, rest) ← field? rest
    return step :: (← steps? fuel rest)
  | fuel + 1, '[' :: rest => do
    let (step, rest) ← item? rest
    return step :: (← steps? fuel rest)
  | _, _ => none

/-- The path that a text stands for.  A text that is no path is one name. -/
def ofText (cs : List Char) : Path :=
  let path? := do
    let (step, rest) ← field? cs
    return step :: (← steps? rest.length rest)
  path?.getD [.field (String.ofList cs)]

end Path

/-- The fields of a record; whatever else there is gives way to an empty one. -/
def fieldsOf : Document → List (String × Document)
  | .record entries => entries
  | _ => []

/-- The items of a list; whatever else there is gives way to an empty one. -/
def itemsOf : Document → List Document
  | .list items => items
  | _ => []

/-- Sets one field among others. -/
def putField (name : String) (value : Document) :
    List (String × Document) → List (String × Document)
  | [] => [(name, value)]
  | first :: rest =>
    if first.1 = name then (name, value) :: rest else first :: putField name value rest

/-- A record in which one field has changed. -/
def changeField (name : String) (change : Option Document → Document) (below : Document) :
    Document :=
  let fields := fieldsOf below
  let name := Text.lowered name
  .record (putField name (change (fields.lookup name)) fields)

/-- The place of an item in a list of a given length. -/
def placeOf (length : Nat) (index : Int) : Nat :=
  if 0 ≤ index then index.toNat else length - index.natAbs

/-- A list in which one item has changed.  A list that is too short is filled up
with nulls. -/
def changeItem (index : Int) (change : Document → Document) (below : Document) : Document :=
  let items := itemsOf below
  let place := placeOf items.length index
  let items := items ++ List.replicate (place + 1 - items.length) .null
  .list (items.modify place change)

mutual

/-- A value laid over what is there.  A record is laid over field by field, and
everything else replaces what is there. -/
def layOver : Document → Option Document → Document
  | .record entries, below => layFields entries (below.getD (.record []))
  | value, _ => value

/-- Fields laid over a record, one after the other. -/
def layFields : List (String × Document) → Document → Document
  | [], below => below
  | (name, value) :: rest, below => layFields rest (changeField name (layOver value) below)

end

/-- A value laid over what a path leads to.  An item is replaced as a whole. -/
def layAt : Path → Document → Option Document → Document
  | [], value, below => layOver value below
  | .field name :: rest, value, below =>
    changeField name (layAt rest value) (below.getD .null)
  | [.item index], value, below => changeItem index (fun _ => value) (below.getD .null)
  | .item index :: rest, value, below =>
    changeItem index (fun item => layAt rest value (some item)) (below.getD .null)

end FieldSurvey.Settings
