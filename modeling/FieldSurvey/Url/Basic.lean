import FieldSurvey.Url.Host

/-!
# Urls

A url has a scheme and a path, and it may have an authority, a query and a
fragment.  Its parts are held as they are written, so that two urls are the same
exactly if their written forms are.
-/

namespace FieldSurvey

namespace Url

/-- What stands between the two slashes and the path. -/
structure Authority where
  /-- a user and a password, with the mark that follows them -/
  user : String := ""
  /-- nothing if the host is empty -/
  host : Option Host := none
  /-- nothing if the port is left out, or is the one that the scheme implies -/
  port : Option Nat := none
  deriving DecidableEq

end Url

/-- A url. -/
structure Url where
  scheme : String
  authority : Option Url.Authority := none
  path : String := ""
  query : Option String := none
  fragment : Option String := none
  deriving DecidableEq

namespace Url

/-- The written form of an authority. -/
def Authority.toText (authority : Authority) : String :=
  let host := (authority.host.map Host.toText).getD ""
  match authority.port with
  | some port => s!"{authority.user}{host}:{port}"
  | none => s!"{authority.user}{host}"

/-- What stands in front of the path: the authority after two slashes, or, if
there is none, what keeps a path from being read as one. -/
def beforePath (url : Url) : String :=
  match url.authority with
  | some authority => "//" ++ authority.toText
  | none => if url.path.startsWith "//" then "/." else ""

/-- An optional part after its mark. -/
def marked (mark : String) (part : Option String) : String :=
  match part with
  | some text => mark ++ text
  | none => ""

/-- The written form. -/
def toText (url : Url) : String :=
  url.scheme ++ ":" ++ url.beforePath ++ url.path ++ marked "?" url.query ++
    marked "#" url.fragment

/-- The written form of the host, if there is one. -/
def hostText? (url : Url) : Option String :=
  (url.authority.bind Authority.host).map Host.toText

/-- The port, if it is written. -/
def port? (url : Url) : Option Nat :=
  url.authority.bind Authority.port

end Url

end FieldSurvey
