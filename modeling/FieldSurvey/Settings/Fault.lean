import FieldSurvey.Document.Codec
import FieldSurvey.ParseError

/-!
# Settings faults

What can be wrong with settings, from the file that holds them to a single
value.  Faults have a document form, so that they can be handed on.
-/

namespace FieldSurvey

open Document

/-- A field that holds a text. -/
def textField (document : Document) (dialect : Dialect) (names : List String) :
    Option (List String) :=
  RecordReader.run (names.mapM fun name => (RecordReader.required name : RecordReader String))
    dialect document

/-- The single variant of an enumeration with contents, and the contents. -/
def variantOf? : Document → Option (String × Document)
  | .record [(name, contents)] => some (name, contents)
  | _ => none

instance : Codec ParseError where
  read dialect document := do
    let (name, contents) ← variantOf? document
    match name with
    | "InvalidAddressRange" =>
      let [value, reason] ← textField contents dialect ["value", "reason"] | none
      some (.invalidAddressRange value reason)
    | "InvalidPortRange" =>
      let [value, reason] ← textField contents dialect ["value", "reason"] | none
      some (.invalidPortRange value reason)
    | "InvalidValue" =>
      let [field, value] ← textField contents dialect ["field", "value"] | none
      some (.invalidValue field value)
    | "Empty" =>
      let [field] ← textField contents dialect ["field"] | none
      some (.empty field)
    | _ => none
  write
    | .invalidAddressRange value reason =>
      .record [("InvalidAddressRange", .record (field "value" value ++ field "reason" reason))]
    | .invalidPortRange value reason =>
      .record [("InvalidPortRange", .record (field "value" value ++ field "reason" reason))]
    | .invalidValue name value =>
      .record [("InvalidValue", .record (field "field" name ++ field "value" value))]
    | .empty name => .record [("Empty", .record (field "field" name))]

namespace Settings

/-- What is wrong with settings. -/
inductive Fault where
  | fileNotFound (path : String)
  | loadFailed (path reason : String)
  | invalidFormat (reason : String)
  | missingField (field : String)
  | invalidValue (field reason : String)
  deriving DecidableEq, Repr

/-- The wording of a fault. -/
def Fault.message : Fault → String
  | fileNotFound path => s!"Configuration file not found: {path}"
  | loadFailed path reason => s!"Failed to load configuration from {path}: {reason}"
  | invalidFormat reason => s!"Invalid configuration format: {reason}"
  | missingField field => s!"Missing required configuration field: {field}"
  | invalidValue field reason => s!"Invalid configuration value for '{field}': {reason}"

instance : Codec Fault where
  read dialect document := do
    let (name, contents) ← variantOf? document
    match name with
    | "FileNotFound" =>
      let [path] ← textField contents dialect ["path"] | none
      some (.fileNotFound path)
    | "LoadFailed" =>
      let [path, reason] ← textField contents dialect ["path", "reason"] | none
      some (.loadFailed path reason)
    | "InvalidFormat" =>
      let [reason] ← textField contents dialect ["reason"] | none
      some (.invalidFormat reason)
    | "MissingField" =>
      let [field] ← textField contents dialect ["field"] | none
      some (.missingField field)
    | "InvalidValue" =>
      let [field, reason] ← textField contents dialect ["field", "reason"] | none
      some (.invalidValue field reason)
    | _ => none
  write
    | .fileNotFound path => .record [("FileNotFound", .record (field "path" path))]
    | .loadFailed path reason =>
      .record [("LoadFailed", .record (field "path" path ++ field "reason" reason))]
    | .invalidFormat reason => .record [("InvalidFormat", .record (field "reason" reason))]
    | .missingField name => .record [("MissingField", .record (field "field" name))]
    | .invalidValue name reason =>
      .record [("InvalidValue", .record (field "field" name ++ field "reason" reason))]

end Settings

/-- A fault of a value, of the settings, or of reading a file. -/
inductive CoreFault where
  | parse (error : ParseError)
  | settings (fault : Settings.Fault)
  | file (reason : String)
  deriving DecidableEq, Repr

namespace CoreFault

/-- The wording of a fault. -/
def message : CoreFault → String
  | parse error => s!"Parse error: {error.message}"
  | settings fault => s!"Configuration error: {fault.message}"
  | file reason => s!"I/O error: {reason}"

/-- Reads the contents of a variant. -/
def readContents (dialect : Dialect) (name : String) (contents : Document) : Option CoreFault :=
  match name with
  | "Parse" => (Codec.read dialect contents).map parse
  | "Config" => (Codec.read dialect contents).map settings
  | "Io" => do
    let [reason] ← textField contents dialect ["message"] | none
    some (file reason)
  | _ => none

instance : Codec CoreFault where
  read dialect
    | .record entries => do
      let name ← dialect.variant? (← entries.lookup "type")
      readContents dialect name (← entries.lookup "details")
    | .list [name, contents] => do readContents dialect (← dialect.variant? name) contents
    | _ => none
  write
    | .parse error => .record [("type", .text "Parse"), ("details", Codec.write error)]
    | .settings fault => .record [("type", .text "Config"), ("details", Codec.write fault)]
    | .file reason =>
      .record [("type", .text "Io"), ("details", .record (field "message" reason))]

end CoreFault

end FieldSurvey
