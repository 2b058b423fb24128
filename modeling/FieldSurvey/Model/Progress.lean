import FieldSurvey.Model.Request

/-!
# Progress events

While a request waits and runs, events tell how far it has come.  Three kinds of
event end a request.
-/

namespace FieldSurvey.Model

open Document
open Text (TextTable)

/-- What an event tells. -/
inductive ProgressKind where
  | pending
  | started
  | networkScanStarted
  | networkScanResult
  | networkScanProgress
  | networkScanFinished
  | portScanStarted
  | portScanResult
  | portScanProgress
  | portScanFinished
  | serverDiscoveryStarted
  | endpointsDiscoveryStarted
  | endpointsDiscoveryFinished
  | serverDiscoveryFinished
  | finished
  | cancelled
  | error
  deriving DecidableEq, Repr

namespace ProgressKind

/-- All kinds, in the order in which a request may report them. -/
def all : List ProgressKind :=
  [pending, started, networkScanStarted, networkScanResult, networkScanProgress,
    networkScanFinished, portScanStarted, portScanResult, portScanProgress, portScanFinished,
    serverDiscoveryStarted, endpointsDiscoveryStarted, endpointsDiscoveryFinished,
    serverDiscoveryFinished, finished, cancelled, error]

/-- The name of a kind. -/
def name : ProgressKind → String
  | pending => "Pending"
  | started => "Started"
  | networkScanStarted => "NetworkScanStarted"
  | networkScanResult => "NetworkScanResult"
  | networkScanProgress => "NetworkScanProgress"
  | networkScanFinished => "NetworkScanFinished"
  | portScanStarted => "PortScanStarted"
  | portScanResult => "PortScanResult"
  | portScanProgress => "PortScanProgress"
  | portScanFinished => "PortScanFinished"
  | serverDiscoveryStarted => "ServerDiscoveryStarted"
  | endpointsDiscoveryStarted => "EndpointsDiscoveryStarted"
  | endpointsDiscoveryFinished => "EndpointsDiscoveryFinished"
  | serverDiscoveryFinished => "ServerDiscoveryFinished"
  | finished => "Finished"
  | cancelled => "Cancelled"
  | error => "Error"

instance : Codec ProgressKind := Codec.ofNames all name

/-- Whether an event of this kind ends its request. -/
def isTerminal : ProgressKind → Bool
  | finished | cancelled | error => true
  | _ => false

end ProgressKind

/-- A progress event. -/
structure Progress where
  timestamp : Time.Timestamp
  kind : ProgressKind
  discovererId : String
  requestId : Option String := none
  context : Option Context := none
  workers : Option UInt64 := none
  progress : Option UInt64 := none
  total : Option UInt64 := none
  discovered : Option UInt64 := none
  result : Option String := none
  details : TextTable := .empty
  deriving DecidableEq

instance : Codec Progress where
  read := RecordReader.run do
    let timestamp ← .required "timestamp"
    let kind ← .required "event_type"
    let discovererId ← .required "discoverer_id"
    let requestId ← .optional "request_id"
    let context ← .optional "context"
    let workers ← .optional "workers"
    let progress ← .optional "progress"
    let total ← .optional "total"
    let discovered ← .optional "discovered"
    let result ← .optional "result"
    let details ← .withDefault "result_details" .empty
    return { timestamp, kind, discovererId, requestId, context, workers, progress, total,
             discovered, result, details }
  write event := .record (
    field "timestamp" event.timestamp ++
    field "event_type" event.kind ++
    field "discoverer_id" event.discovererId ++
    fieldIfSome "request_id" event.requestId ++
    fieldIfSome "context" event.context ++
    fieldIfSome "workers" event.workers ++
    fieldIfSome "progress" event.progress ++
    fieldIfSome "total" event.total ++
    fieldIfSome "discovered" event.discovered ++
    fieldIfSome "result" event.result ++
    fieldIfFilled "result_details" event.details)

end FieldSurvey.Model
