import FieldSurvey.Address.Interface
import FieldSurvey.Model.Request
import FieldSurvey.Port.Range

/-!
# Plans

A plan is a request resolved against this machine's network: the addresses and
ports to probe, and every parameter that the request left open.  Ranges that the
request names count if they can be read and are not empty; otherwise the mode
decides.  The plan reports its ranges in written form.
-/

namespace FieldSurvey

open Model (Mode Request ScanConfig)

/-- The network around this machine. -/
structure Surroundings where
  interfaces : List Address.Interface := []
  /-- the address of the host, if this machine is a container -/
  containerHost : Option Address.V4 := none

/-- A resolved request. -/
structure Plan where
  /-- the request with its mode and parameters filled in -/
  request : Request
  mode : Mode
  config : ScanConfig
  addressRanges : List Address.Range := []
  portRanges : List Port.Range := []
  containerHost : Option Address.V4 := none
  deriving DecidableEq

namespace Plan

/-- The idle time between scans that a plan gets, in seconds: six hours. -/
def defaultIdleTime : UInt64 :=
  21600

/-- The time after which a port probe is given up, in milliseconds. -/
def defaultPortProbeTimeout : UInt64 :=
  5000

/-- The time after which a host probe is given up, in milliseconds. -/
def defaultNetworkProbeTimeout : UInt64 :=
  3000

/-- The parameters with those times filled in that were left open. -/
def withDefaults (config : ScanConfig) : ScanConfig :=
  { config with
    idleTime := some (config.idleTime.getD defaultIdleTime)
    portProbeTimeout := some (config.portProbeTimeout.getD defaultPortProbeTimeout)
    networkProbeTimeout := some (config.networkProbeTimeout.getD defaultNetworkProbeTimeout) }

/-- A list that was read and is not empty. -/
def nonempty? {α : Type} : Except ParseError (List α) → Option (List α)
  | .ok [] => none
  | .ok ranges => some ranges
  | .error _ => none

/-- The port ranges that the parameters name. -/
def explicitPorts? (config : ScanConfig) : Option (List Port.Range) :=
  config.portRanges.bind fun text => nonempty? (Port.Range.parse text)

/-- The address ranges that the parameters name. -/
def explicitAddresses? (config : ScanConfig) : Option (List Address.Range) :=
  config.addressRanges.bind fun text => nonempty? (Address.Range.parse text)

/-- The ports of a mode. -/
def portsOf : Mode → List Port.Range
  | .local => Port.Range.all
  | .fast => Port.Range.wellKnown
  | .network => Port.Range.opcua
  | .scan => Port.Range.unassigned
  | .url | .off => []

/-- The hosts on the subnets of the interfaces. -/
def subnets (interfaces : List Address.Interface) (full : Bool) : List Address.Range :=
  interfaces.map fun interface => interface.hostRange full

/-- The gateways of the interfaces. -/
def gateways (interfaces : List Address.Interface) : List Address.Range :=
  interfaces.filterMap fun interface =>
    interface.gateway.map fun gateway => (Address.Range.single gateway).withNic interface.name

/-- The addresses of a mode. -/
def addressesOf (mode : Mode) (interfaces : List Address.Interface) : List Address.Range :=
  match mode with
  | .local => subnets interfaces true
  | .fast => subnets interfaces false ++ gateways interfaces
  | .network | .scan => subnets interfaces true ++ gateways interfaces
  | .url | .off => []

/-- The name that the range of the container host carries. -/
def containerHostNic : String :=
  "container-host"

/-- The container host, which every scan looks at. -/
def containerRange (mode : Mode) (surroundings : Surroundings) : List Address.Range :=
  if mode.isScanning then
    surroundings.containerHost.toList.map fun host =>
      (Address.Range.single host).withNic containerHostNic
  else []

/-- The mode of a request with parameters: the one it names, or else a fast one
if it names ranges. -/
def modeOf (mode : Option Mode) (config : ScanConfig) : Mode :=
  match mode with
  | some mode => mode
  | none =>
    if (explicitPorts? config).isSome || (explicitAddresses? config).isSome then .fast else .off

/-- The written form of a list of ranges, nothing if there are none. -/
def written {α : Type} (format : List α → String) (ranges : List α) : Option String :=
  if ranges.isEmpty then none else some (format ranges)

/-- The plan of a request with parameters. -/
def ofConfig (request : Request) (config : ScanConfig) (surroundings : Surroundings) : Plan :=
  let mode := modeOf request.mode config
  let ports := (explicitPorts? config).getD (portsOf mode)
  let addresses := Address.Range.merge
    ((explicitAddresses? config).getD (addressesOf mode surroundings.interfaces) ++
      containerRange mode surroundings)
  let config :=
    { withDefaults config with
      addressRanges := written Address.Range.format addresses
      portRanges := written Port.Range.format ports }
  { request := { request with mode := some mode, config := some config }
    mode
    config
    addressRanges := addresses
    portRanges := ports
    containerHost := surroundings.containerHost }

/-- The plan of a request.  One without parameters looks for nothing. -/
def resolve (request : Request) (surroundings : Surroundings) : Plan :=
  match request.config with
  | some config => ofConfig request config surroundings
  | none =>
    let config := withDefaults {}
    { request := { request with mode := some .off, config := some config }
      mode := .off
      config
      containerHost := surroundings.containerHost }

/-- The id of the request. -/
def id (plan : Plan) : Option String :=
  plan.request.id

/-- The number of addresses to probe. -/
def totalAddresses (plan : Plan) : Nat :=
  Address.Range.total plan.addressRanges

/-- The number of ports to probe on every address. -/
def totalPorts (plan : Plan) : Nat :=
  Port.Range.total plan.portRanges

/-- The time after which a host probe is given up, in milliseconds. -/
def networkProbeTimeout (plan : Plan) : UInt64 :=
  plan.config.networkProbeTimeout.getD defaultNetworkProbeTimeout

/-- The time after which a port probe is given up, in milliseconds. -/
def portProbeTimeout (plan : Plan) : UInt64 :=
  plan.config.portProbeTimeout.getD defaultPortProbeTimeout

/-- How many hosts are probed at a time. -/
def maxNetworkProbes (plan : Plan) : UInt64 :=
  plan.config.maxNetworkProbes.getD 1000

/-- How many ports are probed at a time. -/
def maxPortProbes (plan : Plan) : UInt64 :=
  plan.config.maxPortProbes.getD 1000

/-- How far the number of ports that are probed at a time may fall, in percent
of its maximum. -/
def minPortProbesPercent (plan : Plan) : UInt32 :=
  plan.config.minPortProbesPercent.getD 10

/-- The time between two scans, in seconds; an hour if the plan has none. -/
def idleTime (plan : Plan) : UInt64 :=
  plan.config.idleTime.getD 3600

end Plan

/-- A plan to be carried out once. -/
structure Job where
  plan : Plan
  /-- whether the job is one of the periodic scans -/
  isScan : Bool := false
  isCancelled : Bool := false
  deriving DecidableEq

namespace Job

/-- A job for a request. -/
def ofRequest (request : Request) (surroundings : Surroundings) : Job :=
  { plan := Plan.resolve request surroundings }

/-- A new job with the same plan. -/
def renew (job : Job) : Job :=
  { job with isCancelled := false }

/-- The job as a periodic scan. -/
def asScan (job : Job) : Job :=
  { job with isScan := true }

/-- The job after it was cancelled. -/
def cancel (job : Job) : Job :=
  { job with isCancelled := true }

end Job

end FieldSurvey
