import FieldSurvey.Document.Dialect
import FieldSurvey.Text.Set
import FieldSurvey.Time.Reader

/-!
# Reading and writing values

A codec ties a type to its form as a document.  Records are read field by
field: fields that the type does not have are passed over, and a field that is
written twice is refused.
-/

namespace FieldSurvey

open Text (TextSet TextTable)
open Time (Timestamp)

/-- The document form of a type. -/
class Codec (α : Type) where
  read : Dialect → Document → Option α
  write : α → Document

namespace Codec

instance : Codec String where
  read dialect := dialect.text?
  write := .text

instance : Codec UInt8 where
  read dialect document := (dialect.natural? 8 document).map UInt8.ofNat
  write value := .natural value.toNat

instance : Codec UInt32 where
  read dialect document := (dialect.natural? 32 document).map UInt32.ofNat
  write value := .natural value.toNat

instance : Codec UInt64 where
  read dialect document := (dialect.natural? 64 document).map UInt64.ofNat
  write value := .natural value.toNat

instance : Codec Int32 where
  read dialect document := (dialect.integer? 32 document).map Int32.ofInt
  write value := .integer value.toInt

instance : Codec Timestamp where
  read dialect document := (dialect.text? document).bind Time.Reader.timestamp?
  write value := .text value.toText

instance {α : Type} [Codec α] : Codec (List α) where
  read dialect document := (dialect.list? document).bind fun items => items.mapM (read dialect)
  write items := .list (items.map write)

instance : Codec TextSet where
  read dialect document := (read dialect document).map TextSet.ofList
  write set := write set.items

/-- Reads the values of a record whose keys are free. -/
def readEntries (dialect : Dialect) (entries : List (String × Document)) :
    Option (List (String × String)) :=
  entries.mapM fun (key, value) => (dialect.text? value).map fun value => (key, value)

instance : Codec TextTable where
  read dialect
    | .record entries => (readEntries dialect entries).map TextTable.ofList
    | _ => none
  write table := .record (table.entries.map fun (key, value) => (key, .text value))

/-- The codec of a type whose values are known by their names. -/
@[reducible] def ofNames {α : Type} (values : List α) (name : α → String) : Codec α where
  read dialect document :=
    (dialect.variant? document).bind fun text =>
      values.find? fun value => dialect.names (name value) text
  write value := .text (name value)

end Codec

/-- Reads the fields of a record one after the other. -/
abbrev RecordReader := ReaderT Dialect (StateT Fields Option)

namespace RecordReader

/-- The value of the next field, which has the given name. -/
def next? (name : String) : Fields → Option (Option Document × Fields)
  | .named entries =>
    match entries.filter fun entry => entry.1 == name with
    | [] => some (none, .named entries)
    | [(_, value)] => some (some value, .named entries)
    | _ => none
  | .positional [] => some (none, .positional [])
  | .positional (value :: rest) => some (some value, .positional rest)

/-- A field that must be there. -/
def required {α : Type} [Codec α] (name : String) : RecordReader α := fun dialect fields => do
  let (value, rest) ← next? name fields
  let value ← Codec.read dialect (← value)
  some (value, rest)

/-- A field that may be missing and then has the given value. -/
def withDefault {α : Type} [Codec α] (name : String) (default : α) : RecordReader α :=
  fun dialect fields => do
    let (value, rest) ← next? name fields
    match value with
    | some value => some (← Codec.read dialect value, rest)
    | none => some (default, rest)

/-- A field that may be missing or null. -/
def optional {α : Type} [Codec α] (name : String) : RecordReader (Option α) :=
  fun dialect fields => do
    let (value, rest) ← next? name fields
    match value with
    | some value =>
      if dialect.isNull value then some (none, rest)
      else some (some (← Codec.read dialect value), rest)
    | none => some (none, rest)

/-- Whether no value is left over. -/
def isSpent : Fields → Bool
  | .named _ => true
  | .positional items => items.isEmpty

/-- Reads a whole record. -/
def run {α : Type} (reader : RecordReader α) (dialect : Dialect) (document : Document) :
    Option α := do
  let fields ← dialect.fields? document
  let (value, rest) ← reader dialect fields
  if dialect.ignoresRest || isSpent rest then some value else none

end RecordReader

namespace Document

/-- A field with its value. -/
def field {α : Type} [Codec α] (name : String) (value : α) : List (String × Document) :=
  [(name, Codec.write value)]

/-- A field that is left out if it has no value. -/
def fieldIfSome {α : Type} [Codec α] (name : String) (value : Option α) :
    List (String × Document) :=
  match value with
  | some value => [(name, Codec.write value)]
  | none => []

/-- A field that is null if it has no value. -/
def fieldOrNull {α : Type} [Codec α] (name : String) (value : Option α) :
    List (String × Document) :=
  match value with
  | some value => [(name, Codec.write value)]
  | none => [(name, .null)]

/-- The field of a table that is left out if it is empty. -/
def fieldIfFilled (name : String) (table : TextTable) : List (String × Document) :=
  if table.isEmpty then [] else [(name, Codec.write table)]

end Document

end FieldSurvey
