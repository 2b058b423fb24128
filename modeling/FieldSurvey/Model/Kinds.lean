import FieldSurvey.Document.Codec

/-!
# Kinds

The enumerations of the registry: whether an entity is there, what an
application is, and how an endpoint is secured.
-/

namespace FieldSurvey.Model

/-- Whether the last run found an entity. -/
inductive Visibility where
  | unknown
  | found
  | lost
  deriving DecidableEq, Repr

/-- The name of a visibility. -/
def Visibility.name : Visibility → String
  | unknown => "unknown"
  | found => "found"
  | lost => "lost"

instance : Codec Visibility := Codec.ofNames [.unknown, .found, .lost] Visibility.name

/-- What an application is. -/
inductive ApplicationType where
  | server
  | client
  | clientAndServer
  | discoveryServer
  deriving DecidableEq, Repr

namespace ApplicationType

/-- The name that a document uses. -/
def name : ApplicationType → String
  | server => "server"
  | client => "client"
  | clientAndServer => "clientAndServer"
  | discoveryServer => "discoveryServer"

/-- The name that an identity is derived from. -/
def title : ApplicationType → String
  | server => "Server"
  | client => "Client"
  | clientAndServer => "ClientAndServer"
  | discoveryServer => "DiscoveryServer"

instance : Codec ApplicationType :=
  Codec.ofNames [server, client, clientAndServer, discoveryServer] name

end ApplicationType

/-- How messages to an endpoint are secured. -/
inductive SecurityMode where
  | best
  | sign
  | signAndEncrypt
  | none
  deriving DecidableEq, Repr

namespace SecurityMode

/-- The name that a document uses. -/
def name : SecurityMode → String
  | best => "best"
  | sign => "sign"
  | signAndEncrypt => "signAndEncrypt"
  | none => "none"

/-- The name that an identity is derived from. -/
def title : SecurityMode → String
  | best => "Best"
  | sign => "Sign"
  | signAndEncrypt => "SignAndEncrypt"
  | none => "None"

instance : Codec SecurityMode := Codec.ofNames [best, sign, signAndEncrypt, none] name

end SecurityMode

/-- How a user signs in at an endpoint. -/
inductive Credential where
  | none
  | userName
  | x509Certificate
  | jwtToken
  deriving DecidableEq, Repr

/-- The name of a way to sign in. -/
def Credential.name : Credential → String
  | none => "none"
  | userName => "userName"
  | x509Certificate => "x509Certificate"
  | jwtToken => "jwtToken"

instance : Codec Credential :=
  Codec.ofNames [.none, .userName, .x509Certificate, .jwtToken] Credential.name

end FieldSurvey.Model
