import FieldSurvey.Settings.Basic
import FieldSurvey.Survey.Target

/-!
# The catalog

The catalog answers for servers that are known beforehand.  A server is found
by the host of its url, up to the case of letters, or by its address, and by its
port.  It answers with the endpoints that the settings list for it, or with a
single one if they list none.
-/

namespace FieldSurvey.Survey

open Model (DiscoveredEndpoint EndpointDescription)
open Settings (CatalogServer CatalogEndpoint)

/-- Why no endpoints were found. -/
inductive CatalogFault where
  | cancelled
  | noServer (target : Target)
  deriving DecidableEq

/-- The wording of a fault. -/
def CatalogFault.message : CatalogFault → String
  | cancelled => "Endpoint discovery cancelled"
  | noServer target => s!"No server answering at {target.toText}"

/-- Whether a server of the catalog is the one at a target. -/
def isAt (target : Target) (server : CatalogServer) : Bool :=
  match Url.ofText? server.discoveryUrl with
  | none => false
  | some url =>
    match url.hostText? with
    | none => false
    | some host =>
      portOf url == portOf target.url &&
        (Text.sameIgnoringAsciiCase host (target.url.hostText?.getD "") ||
          host == target.address.ip.toText)

/-- The description of an endpoint of the catalog. -/
def describe (server : CatalogServer) (accessibleUrl : String) (endpoint : CatalogEndpoint) :
    DiscoveredEndpoint where
  description :=
    { endpointUrl := endpoint.endpointUrl.getD server.discoveryUrl
      server := server.application
      securityMode := endpoint.securityMode
      securityPolicyUri := endpoint.securityPolicyUri
      securityLevel := endpoint.securityLevel
      userIdentityTokens := endpoint.userIdentityTokens }
  accessibleUrl := accessibleUrl

/-- The endpoints of a server, a default one if none is listed. -/
def offered (server : CatalogServer) : List CatalogEndpoint :=
  if server.endpoints.isEmpty then [{}] else server.endpoints

/-- The endpoints of the server at a target. -/
def findInCatalog (catalog : List CatalogServer) (target : Target) (isCancelled : Bool) :
    Except CatalogFault (List DiscoveredEndpoint) :=
  if isCancelled then .error .cancelled
  else
    match catalog.find? (isAt target) with
    | some server => .ok ((offered server).map (describe server target.url.toText))
    | none => .error (.noServer target)

end FieldSurvey.Survey
