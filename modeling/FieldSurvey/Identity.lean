import FieldSurvey.Digest.Sha256
import FieldSurvey.Model.Kinds
import FieldSurvey.Text.Basic
import FieldSurvey.Text.Lowercase

/-!
# Derived identities

Applications and endpoints are known by a digest of what they are, so that the
same server seen twice has one identity.  Uris and urls are compared without
regard to case.
-/

namespace FieldSurvey.Identity

open FieldSurvey.Text
open FieldSurvey.Model (ApplicationType SecurityMode)

/-- The digest of a text, in hexadecimal. -/
def digestText (text : String) : String :=
  hex false (Digest.sha256Text text)

/-- The first letters of the id of an application. -/
def applicationMark : ApplicationType → String
  | .client => "uac"
  | _ => "uas"

/-- The text whose digest is the id of an application. -/
def applicationSource (site : Option String) (uri : String) (type : ApplicationType) : String :=
  site.getD "" ++ "-" ++ type.title ++ "-" ++ lowered (trimmed uri)

/-- The id of an application, unless its uri is blank. -/
def applicationId? (site : Option String) (uri : String) (type : ApplicationType) :
    Option String :=
  if isAllBlank uri then none
  else some (applicationMark type ++ digestText (applicationSource site uri type))

/-- The first letters of the id of an endpoint. -/
def endpointMark : String :=
  "uat"

/-- The text whose digest is the id of an endpoint.  A missing security mode
counts as the best one, a missing policy as an empty one. -/
def endpointSource (url applicationId : String) (mode : Option SecurityMode)
    (policy : Option String) : String :=
  lowered (trimmed url) ++ "-" ++ applicationId ++ "-" ++ (mode.getD .best).title ++ "-" ++
    lowered (policy.getD "")

/-- The id of an endpoint. -/
def endpointId (url applicationId : String) (mode : Option SecurityMode)
    (policy : Option String) : String :=
  endpointMark ++ digestText (endpointSource url applicationId mode policy)

/-- What separates the gateway from the module in the id of a discoverer. -/
def moduleSeparator : String :=
  "_module_"

/-- The gateway on which a discoverer runs. -/
def gatewayId (discovererId : String) : String :=
  String.ofList (before moduleSeparator.toList discovererId.toList)

/-- The site if there is one, or else the gateway. -/
def siteOrGatewayId (site : Option String) (discovererId : String) : String :=
  match site with
  | some site => if site.isEmpty then gatewayId discovererId else site
  | none => gatewayId discovererId

/-- The digest by which a certificate is known. -/
def thumbprint (certificate : List UInt8) : String :=
  hex true (Digest.sha256 certificate)

end FieldSurvey.Identity
