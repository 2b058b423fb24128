import FieldSurvey.Document.Codec
import FieldSurvey.ParseError
import FieldSurvey.Text.Basic

/-!
# Discovery modes

The mode of a request decides which addresses and ports are probed, if any.
-/

namespace FieldSurvey.Model

open FieldSurvey.Text (trim lowerAscii)

/-- How servers are looked for. -/
inductive Mode where
  | off
  | url
  | «local»
  | fast
  | network
  | scan
  deriving DecidableEq, Repr

namespace Mode

/-- All modes. -/
def all : List Mode :=
  [off, url, «local», fast, network, scan]

/-- The name of a mode. -/
def name : Mode → String
  | off => "off"
  | url => "url"
  | «local» => "local"
  | fast => "fast"
  | network => "network"
  | scan => "scan"

instance : Codec Mode := Codec.ofNames all name

/-- Whether addresses and ports are probed. -/
def isScanning : Mode → Bool
  | off | url => false
  | _ => true

/-- The field named when a text is no mode. -/
def fieldName : String :=
  "discovery"

/-- Reads a mode, ignoring blanks around it and the case of ASCII letters. -/
def ofText (text : String) : Except ParseError Mode :=
  let wanted := String.ofList ((trim text.toList).map lowerAscii)
  match all.find? fun mode => mode.name == wanted with
  | some mode => .ok mode
  | none => .error (.invalidValue fieldName wanted)

end Mode

end FieldSurvey.Model
