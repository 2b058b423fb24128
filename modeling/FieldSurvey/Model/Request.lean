import FieldSurvey.Model.Mode

/-!
# Discovery requests

A request names a mode and the parameters of a scan; it may carry an id and the
context in which it was made.  A server may also be registered by its discovery
url alone, which is a request that probes that url and nothing else.
-/

namespace FieldSurvey.Model

open Document

/-- Who asked for an operation, and when. -/
structure Context where
  authorityId : Option String
  time : Time.Timestamp
  deriving DecidableEq

instance : Codec Context where
  read := RecordReader.run do
    let authorityId ← .optional "authority_id"
    let time ← .required "time"
    return { authorityId, time }
  write context := .record (
    fieldIfSome "authority_id" context.authorityId ++ field "time" context.time)

/-- The same context on behalf of an authority. -/
def Context.withAuthority (context : Context) (authority : String) : Context :=
  { context with authorityId := some authority }

/-- The parameters of a scan.  Times are in milliseconds, the idle time between
scans in seconds. -/
structure ScanConfig where
  addressRanges : Option String := none
  networkProbeTimeout : Option UInt64 := none
  maxNetworkProbes : Option UInt64 := none
  portRanges : Option String := none
  portProbeTimeout : Option UInt64 := none
  maxPortProbes : Option UInt64 := none
  minPortProbesPercent : Option UInt32 := none
  idleTime : Option UInt64 := none
  discoveryUrls : Option (List String) := none
  locales : Option (List String) := none
  deriving DecidableEq

instance : Codec ScanConfig where
  read := RecordReader.run do
    let addressRanges ← .optional "address_ranges_to_scan"
    let networkProbeTimeout ← .optional "network_probe_timeout_ms"
    let maxNetworkProbes ← .optional "max_network_probes"
    let portRanges ← .optional "port_ranges_to_scan"
    let portProbeTimeout ← .optional "port_probe_timeout_ms"
    let maxPortProbes ← .optional "max_port_probes"
    let minPortProbesPercent ← .optional "min_port_probes_percent"
    let idleTime ← .optional "idle_time_between_scans_secs"
    let discoveryUrls ← .optional "discovery_urls"
    let locales ← .optional "locales"
    return { addressRanges, networkProbeTimeout, maxNetworkProbes, portRanges, portProbeTimeout,
             maxPortProbes, minPortProbesPercent, idleTime, discoveryUrls, locales }
  write config := .record (
    fieldIfSome "address_ranges_to_scan" config.addressRanges ++
    fieldIfSome "network_probe_timeout_ms" config.networkProbeTimeout ++
    fieldIfSome "max_network_probes" config.maxNetworkProbes ++
    fieldIfSome "port_ranges_to_scan" config.portRanges ++
    fieldIfSome "port_probe_timeout_ms" config.portProbeTimeout ++
    fieldIfSome "max_port_probes" config.maxPortProbes ++
    fieldIfSome "min_port_probes_percent" config.minPortProbesPercent ++
    fieldIfSome "idle_time_between_scans_secs" config.idleTime ++
    fieldIfSome "discovery_urls" config.discoveryUrls ++
    fieldIfSome "locales" config.locales)

/-- The declared urls, none if there is no list of them. -/
def ScanConfig.urls (config : ScanConfig) : List String :=
  config.discoveryUrls.getD []

/-- The wanted locales, none if there is no list of them. -/
def ScanConfig.wantedLocales (config : ScanConfig) : List String :=
  config.locales.getD []

/-- A request as it is handed in. -/
structure Request where
  id : Option String := none
  mode : Option Mode := none
  config : Option ScanConfig := none
  context : Option Context := none
  deriving DecidableEq

instance : Codec Request where
  read := RecordReader.run do
    let id ← .optional "id"
    let mode ← .optional "discovery"
    let config ← .optional "configuration"
    let context ← .optional "context"
    return { id, mode, config, context }
  write request := .record (
    fieldIfSome "id" request.id ++
    fieldIfSome "discovery" request.mode ++
    fieldIfSome "configuration" request.config ++
    fieldIfSome "context" request.context)

/-- The id, empty if there is none. -/
def Request.idText (request : Request) : String :=
  request.id.getD ""

/-- A single server to look at. -/
structure ServerRequest where
  discoveryUrl : String
  id : Option String
  context : Option Context
  deriving DecidableEq

instance : Codec ServerRequest where
  read := RecordReader.run do
    let discoveryUrl ← .required "discovery_url"
    let id ← .optional "id"
    let context ← .optional "context"
    return { discoveryUrl, id, context }
  write request := .record (
    field "discovery_url" request.discoveryUrl ++
    fieldIfSome "id" request.id ++
    fieldIfSome "context" request.context)

/-- The request that probes the url of a single server. -/
def ServerRequest.toRequest (request : ServerRequest) : Request where
  id := request.id
  mode := some .url
  config := some { discoveryUrls := some [request.discoveryUrl] }
  context := request.context

/-- The wish to cancel every request of an id. -/
structure CancelRequest where
  id : String
  context : Option Context
  deriving DecidableEq

instance : Codec CancelRequest where
  read := RecordReader.run do
    let id ← .required "id"
    let context ← .optional "context"
    return { id, context }
  write request := .record (field "id" request.id ++ fieldIfSome "context" request.context)

end FieldSurvey.Model
