import FieldSurvey.Identity
import FieldSurvey.Model.Registration

/-!
# Discovered endpoints

A server answers with descriptions of its endpoints.  Every description becomes
a registration of the application behind it with that one endpoint.
-/

namespace FieldSurvey.Model

open Document
open Text (TextSet)

/-- How an application describes itself. -/
structure ApplicationDescription where
  applicationUri : String
  applicationType : ApplicationType := .server
  productUri : Option String := none
  applicationName : Option String := none
  locale : Option String := none
  gatewayServerUri : Option String := none
  discoveryProfileUri : Option String := none
  discoveryUrls : List String := []
  deriving DecidableEq

instance : Codec ApplicationDescription where
  read := RecordReader.run do
    let applicationUri ← .required "application_uri"
    let applicationType ← .withDefault "application_type" .server
    let productUri ← .optional "product_uri"
    let applicationName ← .optional "application_name"
    let locale ← .optional "locale"
    let gatewayServerUri ← .optional "gateway_server_uri"
    let discoveryProfileUri ← .optional "discovery_profile_uri"
    let discoveryUrls ← .withDefault "discovery_urls" []
    return { applicationUri, applicationType, productUri, applicationName, locale,
             gatewayServerUri, discoveryProfileUri, discoveryUrls }
  write description := .record (
    field "application_uri" description.applicationUri ++
    field "application_type" description.applicationType ++
    fieldIfSome "product_uri" description.productUri ++
    fieldIfSome "application_name" description.applicationName ++
    fieldIfSome "locale" description.locale ++
    fieldIfSome "gateway_server_uri" description.gatewayServerUri ++
    fieldIfSome "discovery_profile_uri" description.discoveryProfileUri ++
    field "discovery_urls" description.discoveryUrls)

/-- How a server describes one of its endpoints. -/
structure EndpointDescription where
  endpointUrl : String
  server : ApplicationDescription
  serverCertificate : Option (List UInt8) := none
  securityMode : SecurityMode
  securityPolicyUri : Option String := none
  securityLevel : Option Int32 := none
  userIdentityTokens : List Credential := []
  deriving DecidableEq

instance : Codec EndpointDescription where
  read := RecordReader.run do
    let endpointUrl ← .required "endpoint_url"
    let server ← .required "server"
    let serverCertificate ← .optional "server_certificate"
    let securityMode ← .required "security_mode"
    let securityPolicyUri ← .optional "security_policy_uri"
    let securityLevel ← .optional "security_level"
    let userIdentityTokens ← .withDefault "user_identity_tokens" []
    return { endpointUrl, server, serverCertificate, securityMode, securityPolicyUri,
             securityLevel, userIdentityTokens }
  write description := .record (
    field "endpoint_url" description.endpointUrl ++
    field "server" description.server ++
    fieldIfSome "server_certificate" description.serverCertificate ++
    field "security_mode" description.securityMode ++
    fieldIfSome "security_policy_uri" description.securityPolicyUri ++
    fieldIfSome "security_level" description.securityLevel ++
    field "user_identity_tokens" description.userIdentityTokens)

/-- An endpoint description and the url under which the endpoint was reached. -/
structure DiscoveredEndpoint where
  description : EndpointDescription
  accessibleUrl : String
  capabilities : TextSet := .empty
  deriving DecidableEq

instance : Codec DiscoveredEndpoint where
  read := RecordReader.run do
    let description ← .required "description"
    let accessibleUrl ← .required "accessible_endpoint_url"
    let capabilities ← .withDefault "capabilities" .empty
    return { description, accessibleUrl, capabilities }
  write endpoint := .record (
    field "description" endpoint.description ++
    field "accessible_endpoint_url" endpoint.accessibleUrl ++
    field "capabilities" endpoint.capabilities)

/-- Where an endpoint was discovered, and by whom. -/
structure Origin where
  discoveryUrl : String
  hostAddress : String
  siteId : Option String
  discovererId : String

/-- The application behind a discovered endpoint. -/
def DiscoveredEndpoint.application (endpoint : DiscoveredEndpoint) (origin : Origin)
    (applicationId : String) : Application :=
  let description := endpoint.description
  let server := description.server
  { applicationId
    applicationType := server.applicationType
    applicationUri := server.applicationUri
    productUri := server.productUri
    applicationName := server.applicationName
    locale := server.locale
    capabilities := endpoint.capabilities
    discoveryUrls := (TextSet.ofList server.discoveryUrls).insert origin.discoveryUrl
    discoveryProfileUri := server.discoveryProfileUri
    hostAddresses := .single origin.hostAddress
    gatewayServerUri := server.gatewayServerUri
    certificate := description.serverCertificate
    discovererId := some origin.discovererId
    siteId := origin.siteId
    visibility := .found }

/-- The url that the server names for an endpoint, if it differs from the one
under which the endpoint was reached by more than the case of ASCII letters. -/
def DiscoveredEndpoint.alternativeUrls (endpoint : DiscoveredEndpoint) : TextSet :=
  let advertised := endpoint.description.endpointUrl
  if Text.sameIgnoringAsciiCase advertised endpoint.accessibleUrl then .empty
  else .single advertised

/-- The endpoint of a discovered endpoint. -/
def DiscoveredEndpoint.endpoint (endpoint : DiscoveredEndpoint) (origin : Origin)
    (applicationId : String) : Endpoint :=
  let description := endpoint.description
  { id := Identity.endpointId endpoint.accessibleUrl applicationId
      (some description.securityMode) description.securityPolicyUri
    applicationId
    endpointUrl := endpoint.accessibleUrl
    alternativeUrls := endpoint.alternativeUrls
    securityMode := some description.securityMode
    securityPolicy := description.securityPolicyUri
    securityLevel := description.securityLevel
    authenticationMethods := description.userIdentityTokens
    certificateThumbprint := description.serverCertificate.map Identity.thumbprint
    discovererId := some origin.discovererId
    siteId := origin.siteId
    visibility := .found }

/-- The registration of a discovered endpoint, unless the uri of its
application is blank. -/
def Registration.ofDiscovered? (endpoint : DiscoveredEndpoint) (origin : Origin) :
    Option Registration :=
  let server := endpoint.description.server
  let site := Identity.siteOrGatewayId origin.siteId origin.discovererId
  (Identity.applicationId? (some site) server.applicationUri server.applicationType).map
    fun applicationId =>
      { application := endpoint.application origin applicationId
        endpoints := [endpoint.endpoint origin applicationId] }

end FieldSurvey.Model
