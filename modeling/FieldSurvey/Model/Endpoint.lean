import FieldSurvey.Model.Kinds

/-!
# Endpoints

What the registry knows about an endpoint of an application.  An endpoint is
found and lost as its application is.
-/

namespace FieldSurvey.Model

open Document
open Text (TextSet)

/-- An endpoint of the registry. -/
structure Endpoint where
  id : String
  applicationId : String
  endpointUrl : String
  alternativeUrls : TextSet := .empty
  securityMode : Option SecurityMode := none
  securityPolicy : Option String := none
  securityLevel : Option Int32 := none
  authenticationMethods : List Credential := []
  certificateThumbprint : Option String := none
  discovererId : Option String := none
  siteId : Option String := none
  visibility : Visibility := .unknown
  notSeenSince : Option Time.Timestamp := none
  generationId : Option String := none
  deriving DecidableEq

namespace Endpoint

instance : Codec Endpoint where
  read := RecordReader.run do
    let id ← .required "id"
    let applicationId ← .required "application_id"
    let endpointUrl ← .required "endpoint_url"
    let alternativeUrls ← .withDefault "alternative_urls" .empty
    let securityMode ← .optional "security_mode"
    let securityPolicy ← .optional "security_policy"
    let securityLevel ← .optional "security_level"
    let authenticationMethods ← .withDefault "authentication_methods" []
    let certificateThumbprint ← .optional "certificate_thumbprint"
    let discovererId ← .optional "discoverer_id"
    let siteId ← .optional "site_id"
    let visibility ← .withDefault "visibility" .unknown
    let notSeenSince ← .optional "not_seen_since"
    let generationId ← .optional "generation_id"
    return { id, applicationId, endpointUrl, alternativeUrls, securityMode, securityPolicy,
             securityLevel, authenticationMethods, certificateThumbprint, discovererId, siteId,
             visibility, notSeenSince, generationId }
  write endpoint := .record (
    field "id" endpoint.id ++
    field "application_id" endpoint.applicationId ++
    field "endpoint_url" endpoint.endpointUrl ++
    field "alternative_urls" endpoint.alternativeUrls ++
    fieldIfSome "security_mode" endpoint.securityMode ++
    fieldIfSome "security_policy" endpoint.securityPolicy ++
    fieldIfSome "security_level" endpoint.securityLevel ++
    field "authentication_methods" endpoint.authenticationMethods ++
    fieldIfSome "certificate_thumbprint" endpoint.certificateThumbprint ++
    fieldIfSome "discoverer_id" endpoint.discovererId ++
    fieldIfSome "site_id" endpoint.siteId ++
    field "visibility" endpoint.visibility ++
    fieldIfSome "not_seen_since" endpoint.notSeenSince ++
    fieldIfSome "generation_id" endpoint.generationId)

/-- Whether the endpoint is lost. -/
def isLost (endpoint : Endpoint) : Bool :=
  endpoint.visibility = .lost

/-- The endpoint as found. -/
def found (endpoint : Endpoint) : Endpoint :=
  { endpoint with visibility := .found, notSeenSince := none }

/-- The endpoint as lost since a point in time, unless it was lost before. -/
def lost (endpoint : Endpoint) (since : Time.Timestamp) : Endpoint :=
  if endpoint.isLost then endpoint
  else { endpoint with visibility := .lost, notSeenSince := some since }

theorem lost_of_not_isLost {endpoint : Endpoint} (present : endpoint.isLost = false)
    (since : Time.Timestamp) :
    endpoint.lost since =
      { endpoint with visibility := .lost, notSeenSince := some since } := by
  simp [lost, present]

/-- The endpoint with all that a later run can tell anew. -/
def rediscovered (endpoint seen : Endpoint) : Endpoint :=
  { endpoint with
    endpointUrl := seen.endpointUrl
    alternativeUrls := seen.alternativeUrls
    securityLevel := seen.securityLevel
    authenticationMethods := seen.authenticationMethods
    certificateThumbprint := seen.certificateThumbprint
    applicationId := seen.applicationId
    siteId := seen.siteId }

end Endpoint

end FieldSurvey.Model
