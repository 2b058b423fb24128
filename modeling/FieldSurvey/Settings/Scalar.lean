import FieldSurvey.Document.Yaml.Node
import FieldSurvey.Settings.Path

/-!
# Kinds of scalars

In settings that are laid over each other a scalar has a kind as soon as it is
read.  The plain scalars of a file and the texts of variables have rules of
their own; what no rule knows is a text.
-/

namespace FieldSurvey.Settings

/-- An integer of 64 bits with an optional sign. -/
def integer? (cs : List Char) : Option Int :=
  (Number.Decimal.integer? cs).filter (fitsSigned 64)

/-- An integer of 64 bits in a base, with an optional sign. -/
def integerIn? (base : Nat) (cs : List Char) : Option Int :=
  let (isNegative, digits) := Number.Decimal.signed cs
  if digits.isEmpty then none
  else do
    let values ← digits.mapM (Number.digitIn? base)
    let size := Int.ofNat (values.foldl (fun value digit => value * base + digit) 0)
    let value := if isNegative then -size else size
    if fitsSigned 64 value then some value else none

/-- The integer that a plain scalar is because of how it begins. -/
def markedInteger? : List Char → Option Int
  | '0' :: 'x' :: cs => integerIn? 16 cs
  | '0' :: 'o' :: cs => integerIn? 8 cs
  | '+' :: cs => integer? cs
  | _ => none

/-- The plain scalars that stand for reals of a file that nobody reads. -/
def unreadable : List String :=
  let infinities := [".inf", ".Inf", ".INF"]
  infinities ++ infinities.map ("+" ++ ·) ++ infinities.map ("-" ++ ·) ++ [".nan", ".NaN", ".NAN"]

/-- The value of a plain scalar of a file, if it is one that can be read. -/
def ofPlain? (text : String) : Option Document :=
  let cs := text.toList
  match markedInteger? cs with
  | some value => some (.integer value)
  | none =>
    if ["", "~", "null"].contains text then some .null
    else if text = "true" then some (.bool true)
    else if text = "false" then some (.bool false)
    else if unreadable.contains text then none
    else
      match integer? cs, Number.Double.read? cs with
      | some value, _ => some (.integer value)
      | none, some value => some (.real value)
      | none, none => some (.text text)

/-- The value of the text of a variable. -/
def ofVariable (text : String) : Document :=
  let lower := Text.lowered text
  if lower = "true" then .bool true
  else if lower = "false" then .bool false
  else
    match integer? text.toList, Number.Double.read? text.toList with
    | some value, _ => .integer value
    | none, some value => .real value
    | none, none => .text text

/-- What the key of a field is: a text and a number are different keys, even if
they are written alike. -/
inductive Key where
  | integer (value : Int)
  | text (value : String)
  deriving DecidableEq, Repr

/-- The name of the field that a key stands for. -/
def Key.name : Key → String
  | integer value => toString value
  | text value => value

/-- The key that a part of a file is, if it can be one. -/
def key? : Yaml.Node → Option Key
  | .scalar true text =>
    match ofPlain? text with
    | some (.integer value) => some (.integer value)
    | some (.text value) => some (.text value)
    | _ => none
  | .scalar false text => some (.text text)
  | _ => none

/-- Fields in which every key occurs once become those of a record.  Of two keys
for one name the last one counts. -/
def distinctFields? (seen : List Key) (fields : List (String × Document)) :
    List (Key × Document) → Option (List (String × Document))
  | [] => some fields
  | (key, value) :: rest =>
    if seen.contains key then none
    else distinctFields? (key :: seen) (putField key.name value fields) rest

mutual

/-- The document that a part of a file is. -/
def ofNode? : Yaml.Node → Option Document
  | .scalar true text => ofPlain? text
  | .scalar false text => some (.text text)
  | .list items => (ofItems? items).map .list
  | .record fields => do
    let fields ← ofFields? fields
    return .record (← distinctFields? [] [] fields)

/-- The documents of items. -/
def ofItems? : List Yaml.Node → Option (List Document)
  | [] => some []
  | first :: rest => do
    let document ← ofNode? first
    return document :: (← ofItems? rest)

/-- The keys and documents of fields. -/
def ofFields? : List (Yaml.Node × Yaml.Node) → Option (List (Key × Document))
  | [] => some []
  | (name, first) :: rest => do
    let key ← key? name
    let document ← ofNode? first
    return (key, document) :: (← ofFields? rest)

end

end FieldSurvey.Settings
