import FieldSurvey.Model.Discovered
import FieldSurvey.Model.Record
import FieldSurvey.Plan
import FieldSurvey.Settings.Basic
import FieldSurvey.Survey.Target

/-!
# Results of a run

The endpoints that the servers of a run describe become registrations, one for
every application in the order in which the applications were met.  They are
published as a batch: a record for every endpoint, numbered from zero, and at the
end a record about the request.
-/

namespace FieldSurvey

open Model (Application DiscoveredEndpoint Endpoint Origin Registration ResultRecord)
open Time (Timestamp)

/-- A plan that is carried out on behalf of a discoverer. -/
structure Survey where
  discoverer : Settings.Discoverer
  plan : Plan
  /-- whether this machine is a container -/
  isContainer : Bool
  /-- milliseconds between two reports of a scan -/
  reportInterval : Nat
  deriving DecidableEq

namespace Survey

/-- Where the endpoints of a target are discovered. -/
def origin (survey : Survey) (target : Target) : Origin where
  discoveryUrl := target.url.toText
  hostAddress := target.address.ip.toText
  siteId := survey.discoverer.siteId
  discovererId := survey.discoverer.id

/-- The registrations of the endpoints of a target.  An endpoint whose
application has no uri is left out. -/
def registrationsAt (survey : Survey) (target : Target) (endpoints : List DiscoveredEndpoint) :
    List Registration :=
  endpoints.filterMap fun endpoint =>
    Registration.ofDiscovered? endpoint (survey.origin target)

/-- Merges registrations, one after the other, into those of a run. -/
def collect (collected found : List Registration) : List Registration :=
  found.foldl (fun collected registration => registration.mergeInto collected) collected

/-- Every endpoint of a list of registrations with its application. -/
def endpointPairs (registrations : List Registration) : List (Application × Endpoint) :=
  registrations.flatMap fun registration =>
    registration.endpoints.map fun endpoint => (registration.application, endpoint)

/-- The records of the endpoints. -/
def records (now : Timestamp) (registrations : List Registration) : List ResultRecord :=
  (endpointPairs registrations).zipIdx.map fun ((application, endpoint), index) =>
    { index := UInt32.ofNat index
      timestamp := now
      application := some application
      endpoint := some endpoint }

/-- The counts that a batch reports. -/
def diagnostics (plan : Plan) (registrations : List Registration) : Text.TextTable :=
  let counts :=
    [("applications", registrations.length), ("endpoints", (endpointPairs registrations).length)]
  let scanned :=
    if plan.mode.isScanning then
      [("addresses", plan.totalAddresses), ("ports", plan.totalPorts)]
    else []
  .ofList ((counts ++ scanned).map fun (name, count) => (name, toString count))

/-- The record about the request, which closes the batch. -/
def sentinel (plan : Plan) (now : Timestamp) (registrations : List Registration) :
    ResultRecord where
  index := UInt32.ofNat (endpointPairs registrations).length
  timestamp := now
  info := some
    { id := plan.request.id
      mode := some plan.mode
      config := plan.request.config
      context := plan.request.context
      diagnostics := diagnostics plan registrations }

/-- The batch of a run. -/
def batch (plan : Plan) (now : Timestamp) (registrations : List Registration) :
    List ResultRecord :=
  records now registrations ++ [sentinel plan now registrations]

end Survey

end FieldSurvey
