import FieldSurvey.Document.Basic
import FieldSurvey.Text.Basic

/-!
# Writing JSON text

A document is written as JSON on one line.  Quotes, backslashes and control
characters are escaped.
-/

namespace FieldSurvey.JsonWriter

/-- The escaped form of a character inside a text. -/
def escape (c : Char) : String :=
  if c = '"' then "\\\""
  else if c = '\\' then "\\\\"
  else if c = '\n' then "\\n"
  else if c = '\r' then "\\r"
  else if c = '\t' then "\\t"
  else if c.toNat < 32 then "\\u00" ++ Text.hex false [UInt8.ofNat c.toNat]
  else String.singleton c

/-- Adds a text in quotes. -/
def addQuoted (out text : String) : String :=
  (text.toList.foldl (fun out c => out ++ escape c) (out ++ "\"")) ++ "\""

mutual

/-- Adds a document. -/
def add (out : String) : Document → String
  | .null => out ++ "null"
  | .bool value => out ++ (if value then "true" else "false")
  | .integer value => out ++ toString value
  | .real value => out ++ (if value.isFinite then value.toText else "null")
  | .text value => addQuoted out value
  | .plain value => addQuoted out value
  | .list items => addItems (out ++ "[") items ++ "]"
  | .record fields => addFields (out ++ "\x7b") fields ++ "\x7d"

/-- Adds the items of a list with commas between them. -/
def addItems (out : String) : List Document → String
  | [] => out
  | [item] => add out item
  | item :: rest => addItems (add out item ++ ",") rest

/-- Adds the fields of a record with commas between them. -/
def addFields (out : String) : List (String × Document) → String
  | [] => out
  | [(name, value)] => add (addQuoted out name ++ ":") value
  | (name, value) :: rest => addFields (add (addQuoted out name ++ ":") value ++ ",") rest

end

/-- A document on one line. -/
def render (document : Document) : String :=
  add "" document

end FieldSurvey.JsonWriter
