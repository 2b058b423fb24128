/-!
# Parse errors

The ways in which a written value is refused, and their wording.
-/

namespace FieldSurvey

/-- A refused text. -/
inductive ParseError where
  /-- a piece of an address range list, and what is wrong with it -/
  | invalidAddressRange (value reason : String)
  /-- a piece of a port range list, and what is wrong with it -/
  | invalidPortRange (value reason : String)
  /-- a value that a field does not have -/
  | invalidValue (field value : String)
  /-- no value where one is needed -/
  | empty (field : String)
  deriving DecidableEq, Repr

/-- The wording of a parse error. -/
def ParseError.message : ParseError → String
  | .invalidAddressRange value reason => s!"Invalid address range '{value}': {reason}"
  | .invalidPortRange value reason => s!"Invalid port range '{value}': {reason}"
  | .invalidValue field value => s!"Invalid value '{value}' for '{field}'"
  | .empty field => s!"Missing value for '{field}'"

end FieldSurvey
