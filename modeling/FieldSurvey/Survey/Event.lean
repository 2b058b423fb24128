import FieldSurvey.Model.Progress
import FieldSurvey.Probe.Scan

/-!
# Events

What happens to a request is told as a sequence of events.  An event becomes a
progress record once it is known who tells it, about which request, and when.
-/

namespace FieldSurvey.Survey

open Address (Ip Socket)
open Model (Context Progress ProgressKind)
open Probe (Counters Report)
open Time (Timestamp)

/-- The two scans of a run. -/
inductive Phase where
  | hosts
  | ports
  deriving DecidableEq, Repr

/-- What is probed in a phase. -/
abbrev Phase.Item : Phase → Type
  | hosts => Ip
  | ports => Socket

/-- The written form of what is probed. -/
def Phase.itemText : (phase : Phase) → phase.Item → String
  | hosts, ip => Ip.toText ip
  | ports, socket => Socket.toText socket

/-- What happens to a request. -/
inductive Event where
  /-- the request waits behind `ahead` others -/
  | pending (ahead : Nat)
  | started
  | scanStarted (phase : Phase) (workers : UInt64) (total : Nat)
  | scanFound (phase : Phase) (item : String) (counters : Counters)
  | scanProgress (phase : Phase) (counters : Counters)
  | scanFinished (phase : Phase) (total found : Nat)
  | serversStarted (total : Nat)
  | endpointsStarted (index total : Nat) (url : String)
  | endpointsFinished (index total : Nat) (url : String) (found : Nat) (fault : Option String)
  | serversFinished (total found : Nat)
  | finished (records : Nat)
  | cancelled
  | failed (reason : String)
  deriving DecidableEq

namespace Event

/-- What an event tells. -/
def kind : Event → ProgressKind
  | pending _ => .pending
  | started => .started
  | scanStarted .hosts _ _ => .networkScanStarted
  | scanStarted .ports _ _ => .portScanStarted
  | scanFound .hosts _ _ => .networkScanResult
  | scanFound .ports _ _ => .portScanResult
  | scanProgress .hosts _ => .networkScanProgress
  | scanProgress .ports _ => .portScanProgress
  | scanFinished .hosts _ _ => .networkScanFinished
  | scanFinished .ports _ _ => .portScanFinished
  | serversStarted _ => .serverDiscoveryStarted
  | endpointsStarted _ _ _ => .endpointsDiscoveryStarted
  | endpointsFinished _ _ _ _ _ => .endpointsDiscoveryFinished
  | serversFinished _ _ => .serverDiscoveryFinished
  | finished _ => .finished
  | cancelled => .cancelled
  | failed _ => .error

/-- The event that a report of a pool becomes. -/
def ofReport (phase : Phase) : Report phase.Item → Event
  | .found item counters => scanFound phase (phase.itemText item) counters
  | .progress counters => scanProgress phase counters

end Event

/-- A number in a progress record. -/
def shown (n : Nat) : Option UInt64 :=
  some (UInt64.ofNat n)

/-- A progress record with the counters of a pool. -/
def withCounters (counters : Counters) (progress : Progress) : Progress :=
  { progress with
    workers := shown counters.active
    progress := shown counters.issued
    total := shown counters.total
    discovered := shown counters.found }

/-- Who tells of events, and about which request. -/
structure Reporter where
  discovererId : String
  requestId : Option String
  context : Option Context
  deriving DecidableEq

/-- The progress record of an event. -/
def Reporter.progress (reporter : Reporter) (timestamp : Timestamp) (event : Event) : Progress :=
  let bare : Progress :=
    { timestamp
      kind := event.kind
      discovererId := reporter.discovererId
      requestId := reporter.requestId
      context := reporter.context }
  match event with
  | .pending ahead => { bare with total := shown ahead }
  | .started | .cancelled => bare
  | .scanStarted _ workers total =>
    { bare with workers := some workers, progress := shown 0, total := shown total }
  | .scanFound _ item counters => { withCounters counters bare with result := some item }
  | .scanProgress _ counters => withCounters counters bare
  | .scanFinished _ total found | .serversFinished total found =>
    { bare with progress := shown total, total := shown total, discovered := shown found }
  | .serversStarted total => { bare with progress := shown 0, total := shown total }
  | .endpointsStarted index total url =>
    { bare with progress := shown index, total := shown total, result := some url }
  | .endpointsFinished index total url found fault =>
    { bare with
      progress := shown (index + 1)
      total := shown total
      discovered := shown found
      result := some url
      details := .ofList (fault.toList.map fun text => ("error", text)) }
  | .finished records => { bare with discovered := shown records }
  | .failed reason => { bare with result := some reason }

end FieldSurvey.Survey
