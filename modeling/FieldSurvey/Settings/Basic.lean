import FieldSurvey.Model.Discovered

/-!
# Settings

What the program is told at its start: on whose behalf it discovers, what it
looks for periodically, how the registry and the log behave, and a catalog of
servers that are known beforehand.  Whatever is left out has a default.
-/

namespace FieldSurvey.Settings

open Document
open Model (Mode ScanConfig ApplicationDescription SecurityMode Credential)

/-- On whose behalf servers are discovered. -/
structure Discoverer where
  id : String := "uascout_module_discovery"
  siteId : Option String := none
  deriving DecidableEq

instance : Codec Discoverer where
  read := RecordReader.run do
    let id ← .withDefault "id" ({} : Discoverer).id
    let siteId ← .optional "site_id"
    return { id, siteId }
  write discoverer := .record (
    field "id" discoverer.id ++
    fieldOrNull "site_id" discoverer.siteId)

/-- The standing request, and how requests are run. -/
structure Discovery where
  mode : Mode := .off
  config : ScanConfig := {}
  /-- seconds before the first periodic scan -/
  initialScanDelay : UInt64 := 20
  queueCapacity : UInt64 := 1000
  /-- seconds between two reports of a scan -/
  progressInterval : UInt64 := 3
  deriving DecidableEq

instance : Codec Discovery where
  read := RecordReader.run do
    let mode ← .withDefault "mode" .off
    let config ← .withDefault "configuration" {}
    let initialScanDelay ← .withDefault "initial_scan_delay_secs" 20
    let queueCapacity ← .withDefault "queue_capacity" 1000
    let progressInterval ← .withDefault "progress_interval_secs" 3
    return { mode, config, initialScanDelay, queueCapacity, progressInterval }
  write discovery := .record (
    field "mode" discovery.mode ++
    field "configuration" discovery.config ++
    field "initial_scan_delay_secs" discovery.initialScanDelay ++
    field "queue_capacity" discovery.queueCapacity ++
    field "progress_interval_secs" discovery.progressInterval)

/-- How the registry is written. -/
structure Registry where
  maxUpdateRetries : UInt64 := 3
  deriving DecidableEq

instance : Codec Registry where
  read := RecordReader.run do
    let maxUpdateRetries ← .withDefault "max_update_retries" 3
    return { maxUpdateRetries }
  write registry := .record (field "max_update_retries" registry.maxUpdateRetries)

/-- The form of log lines. -/
inductive LogFormat where
  | text
  | json
  deriving DecidableEq, Repr

/-- The name of a log format. -/
def LogFormat.name : LogFormat → String
  | text => "text"
  | json => "json"

instance : Codec LogFormat := Codec.ofNames [.text, .json] LogFormat.name

/-- What is logged, and how. -/
structure Logging where
  level : String := "info"
  format : LogFormat := .text
  deriving DecidableEq

instance : Codec Logging where
  read := RecordReader.run do
    let level ← .withDefault "level" "info"
    let format ← .withDefault "format" .text
    return { level, format }
  write logging := .record (field "level" logging.level ++ field "format" logging.format)

/-- An endpoint of a server in the catalog. -/
structure CatalogEndpoint where
  endpointUrl : Option String := none
  securityMode : SecurityMode := .none
  securityPolicyUri : Option String := none
  securityLevel : Option Int32 := none
  userIdentityTokens : List Credential := [.none]
  deriving DecidableEq

instance : Codec CatalogEndpoint where
  read := RecordReader.run do
    let endpointUrl ← .optional "endpoint_url"
    let securityMode ← .withDefault "security_mode" .none
    let securityPolicyUri ← .optional "security_policy_uri"
    let securityLevel ← .optional "security_level"
    let userIdentityTokens ← .withDefault "user_identity_tokens" [.none]
    return { endpointUrl, securityMode, securityPolicyUri, securityLevel, userIdentityTokens }
  write endpoint := .record (
    fieldOrNull "endpoint_url" endpoint.endpointUrl ++
    field "security_mode" endpoint.securityMode ++
    fieldOrNull "security_policy_uri" endpoint.securityPolicyUri ++
    fieldOrNull "security_level" endpoint.securityLevel ++
    field "user_identity_tokens" endpoint.userIdentityTokens)

/-- A server in the catalog. -/
structure CatalogServer where
  discoveryUrl : String
  application : ApplicationDescription
  endpoints : List CatalogEndpoint := []
  deriving DecidableEq

instance : Codec CatalogServer where
  read := RecordReader.run do
    let discoveryUrl ← .required "discovery_url"
    let application ← .required "application"
    let endpoints ← .withDefault "endpoints" []
    return { discoveryUrl, application, endpoints }
  write server := .record (
    field "discovery_url" server.discoveryUrl ++
    field "application" server.application ++
    field "endpoints" server.endpoints)

end Settings

open Settings in
/-- All settings. -/
structure Settings where
  discoverer : Discoverer := {}
  discovery : Discovery := {}
  registry : Settings.Registry := {}
  logging : Logging := {}
  catalog : List CatalogServer := []
  deriving DecidableEq

namespace Settings

open Document

instance : Codec Settings where
  read := RecordReader.run do
    let discoverer ← .withDefault "discoverer" {}
    let discovery ← .withDefault "discovery" {}
    let registry ← .withDefault "registry" {}
    let logging ← .withDefault "logging" {}
    let catalog ← .withDefault "catalog" []
    return { discoverer, discovery, registry, logging, catalog }
  write settings := .record (
    field "discoverer" settings.discoverer ++
    field "discovery" settings.discovery ++
    field "registry" settings.registry ++
    field "logging" settings.logging ++
    field "catalog" settings.catalog)

end FieldSurvey.Settings
