import FieldSurvey.Url.Reader

/-!
# Targets

A target is a server to be asked for its endpoints: its url, and the socket that
the url leads to.
-/

namespace FieldSurvey.Survey

open Address (Socket)

/-- The port of a url that does not name one. -/
def defaultPort : Nat :=
  4840

/-- The port of a url. -/
def portOf (url : Url) : Nat :=
  url.port?.getD defaultPort

/-- A server to be asked. -/
structure Target where
  url : Url
  address : Socket
  deriving DecidableEq

/-- The written form, as `url (address)`. -/
def Target.toText (target : Target) : String :=
  s!"{target.url.toText} ({target.address.toText})"

end FieldSurvey.Survey
