import FieldSurvey.Model.Kinds
import FieldSurvey.Model.Request

/-!
# Applications

What the registry knows about an application, and how that knowledge changes:
an application is found, is lost, takes over what a later run saw of it, or
collects what several endpoints of one run say about it.
-/

namespace FieldSurvey.Model

open Document
open Text (TextSet)

/-- An application of the registry. -/
structure Application where
  applicationId : String
  applicationType : ApplicationType := .server
  applicationUri : String
  productUri : Option String := none
  applicationName : Option String := none
  locale : Option String := none
  capabilities : TextSet := .empty
  discoveryUrls : TextSet := .empty
  discoveryProfileUri : Option String := none
  hostAddresses : TextSet := .empty
  gatewayServerUri : Option String := none
  certificate : Option (List UInt8) := none
  discovererId : Option String := none
  siteId : Option String := none
  visibility : Visibility := .unknown
  notSeenSince : Option Time.Timestamp := none
  created : Option Context := none
  updated : Option Context := none
  generationId : Option String := none
  deriving DecidableEq

namespace Application

instance : Codec Application where
  read := RecordReader.run do
    let applicationId ← .required "application_id"
    let applicationType ← .withDefault "application_type" .server
    let applicationUri ← .required "application_uri"
    let productUri ← .optional "product_uri"
    let applicationName ← .optional "application_name"
    let locale ← .optional "locale"
    let capabilities ← .withDefault "capabilities" .empty
    let discoveryUrls ← .withDefault "discovery_urls" .empty
    let discoveryProfileUri ← .optional "discovery_profile_uri"
    let hostAddresses ← .withDefault "host_addresses" .empty
    let gatewayServerUri ← .optional "gateway_server_uri"
    let certificate ← .optional "certificate"
    let discovererId ← .optional "discoverer_id"
    let siteId ← .optional "site_id"
    let visibility ← .withDefault "visibility" .unknown
    let notSeenSince ← .optional "not_seen_since"
    let created ← .optional "created"
    let updated ← .optional "updated"
    let generationId ← .optional "generation_id"
    return { applicationId, applicationType, applicationUri, productUri, applicationName, locale,
             capabilities, discoveryUrls, discoveryProfileUri, hostAddresses, gatewayServerUri,
             certificate, discovererId, siteId, visibility, notSeenSince, created, updated,
             generationId }
  write application := .record (
    field "application_id" application.applicationId ++
    field "application_type" application.applicationType ++
    field "application_uri" application.applicationUri ++
    fieldIfSome "product_uri" application.productUri ++
    fieldIfSome "application_name" application.applicationName ++
    fieldIfSome "locale" application.locale ++
    field "capabilities" application.capabilities ++
    field "discovery_urls" application.discoveryUrls ++
    fieldIfSome "discovery_profile_uri" application.discoveryProfileUri ++
    field "host_addresses" application.hostAddresses ++
    fieldIfSome "gateway_server_uri" application.gatewayServerUri ++
    fieldIfSome "certificate" application.certificate ++
    fieldIfSome "discoverer_id" application.discovererId ++
    fieldIfSome "site_id" application.siteId ++
    field "visibility" application.visibility ++
    fieldIfSome "not_seen_since" application.notSeenSince ++
    fieldIfSome "created" application.created ++
    fieldIfSome "updated" application.updated ++
    fieldIfSome "generation_id" application.generationId)

/-- Whether the application is lost. -/
def isLost (application : Application) : Bool :=
  application.visibility = .lost

/-- The application as found. -/
def found (application : Application) : Application :=
  { application with visibility := .found, notSeenSince := none }

/-- The application as lost since a point in time, unless it was lost
before. -/
def lost (application : Application) (since : Time.Timestamp) : Application :=
  if application.isLost then application
  else { application with visibility := .lost, notSeenSince := some since }

theorem lost_of_not_isLost {application : Application} (present : application.isLost = false)
    (since : Time.Timestamp) :
    application.lost since =
      { application with visibility := .lost, notSeenSince := some since } := by
  simp [lost, present]

/-- The application with all that a later run can tell anew. -/
def rediscovered (application seen : Application) : Application :=
  { application with
    productUri := seen.productUri
    applicationName := seen.applicationName
    locale := seen.locale
    capabilities := seen.capabilities
    discoveryUrls := seen.discoveryUrls
    discoveryProfileUri := seen.discoveryProfileUri
    hostAddresses := seen.hostAddresses
    gatewayServerUri := seen.gatewayServerUri
    certificate := seen.certificate
    siteId := seen.siteId }

/-- The application with the urls, addresses and capabilities of another one
added to its own. -/
def joined (application other : Application) : Application :=
  { application with
    discoveryUrls := application.discoveryUrls.union other.discoveryUrls
    hostAddresses := application.hostAddresses.union other.hostAddresses
    capabilities := application.capabilities.union other.capabilities }

end Application

end FieldSurvey.Model
