import FieldSurvey.Document.Yaml.Dialect
import FieldSurvey.Settings.Basic
import FieldSurvey.Settings.Fault
import FieldSurvey.Settings.Layers

/-!
# Loading settings

Settings are loaded from a YAML text, from a file, or from a file with the
environment laid over it.
-/

namespace FieldSurvey.Settings

/-- What is found at a path. -/
inductive PathContents where
  | missing
  | directory
  | file (text : String)

/-- Settings from a YAML text. -/
def ofYaml (text : String) : Except Fault Settings :=
  match Yaml.document? text with
  | none => .error (.invalidFormat "no YAML document")
  | some document =>
    match Codec.read .yaml document with
    | some settings => .ok settings
    | none => .error (.invalidFormat "unexpected value")

/-- Settings from a file. -/
def ofFile (path : String) (contents : PathContents) : Except Fault Settings :=
  match contents with
  | .missing => .error (.fileNotFound path)
  | .directory => .error (.loadFailed path "not a file")
  | .file text => ofYaml text

/-- The characters of a file behind its byte order mark, if it has one. -/
def afterByteOrderMark : List Char → List Char
  | [] => []
  | c :: rest => if c.toNat = 0xFEFF then rest else c :: rest

/-- The fields of a file.  A text without a document has none. -/
def fieldsOfFile? (text : String) : Option (List (String × Document)) := do
  match ← Yaml.node? .newer (afterByteOrderMark text.toList) with
  | none => return []
  | some node =>
    match ← ofNode? node with
    | .record entries => return entries
    | _ => none

/-- Settings from a file with the environment laid over it. -/
def ofLayers (path : String) (contents : PathContents) (environment : List (String × String)) :
    Except Fault Settings :=
  match contents with
  | .missing => .error (.loadFailed path "file not found")
  | .directory => .error (.loadFailed path "not a file")
  | .file text =>
    match fieldsOfFile? text with
    | none => .error (.loadFailed path "no YAML record")
    | some entries =>
      match Codec.read layered (layVariables environment (ofFields entries)) with
      | some settings => .ok settings
      | none => .error (.invalidFormat "unexpected value")

end FieldSurvey.Settings
