import FieldSurvey.Survey.Batch
import FieldSurvey.Survey.Targets

/-!
# Runs

A run resolves the declared urls, scans for more servers if its mode says so,
asks every server for its endpoints and publishes what it has found.  It ends in
one of three ways, and the last event that it tells says in which.
-/

namespace FieldSurvey.Survey

open Address (Ip Socket)
open Model (Registration)
open Probe (Outcome Scan)

/-- How a run ends. -/
inductive Ending where
  | finished (records : Nat)
  | cancelled
  | failed (reason : String)
  deriving DecidableEq

/-- The event that tells of an ending. -/
def Ending.event : Ending → Event
  | finished records => .finished records
  | cancelled => .cancelled
  | failed reason => .failed reason

/-- Adds addresses that are not listed yet. -/
def addAddresses (more addresses : List Ip) : List Ip :=
  more.foldl (fun all ip => if all.contains ip then all else all ++ [ip]) addresses

/-- The addresses whose ports are scanned: those that responded, this machine,
and the host of the container. -/
def portScanAddresses (plan : Plan) (found : List Ip) : List Ip :=
  addAddresses (.v4 .loopback :: plan.containerHost.toList.map .v4) found

/-- The scan for hosts. -/
def hostScan (survey : Survey) : Scan Ip :=
  Scan.hosts survey.plan.addressRanges survey.plan.maxNetworkProbes
    survey.plan.networkProbeTimeout.toNat survey.reportInterval

/-- The scan for open ports. -/
def portScan (survey : Survey) (addresses : List Ip) : Scan Socket :=
  Scan.ports addresses survey.plan.portRanges survey.plan.maxPortProbes
    survey.plan.minPortProbesPercent survey.plan.portProbeTimeout.toNat survey.reportInterval

/-- Scans for hosts. -/
def scanHosts (survey : Survey) : Program RunCalls (Outcome (List Ip)) := do
  let total := survey.plan.totalAddresses
  report (.scanStarted .hosts survey.plan.maxNetworkProbes total)
  match ← probe .hosts survey.hostScan with
  | .cancelled => return .cancelled
  | .completed found =>
    report (.scanFinished .hosts total found.length)
    return .completed (portScanAddresses survey.plan found)

/-- Scans for open ports. -/
def scanPorts (survey : Survey) (addresses : List Ip) :
    Program RunCalls (Outcome (List Socket)) := do
  let scan := survey.portScan addresses
  report (.scanStarted .ports survey.plan.maxPortProbes scan.total)
  match ← probe .ports scan with
  | .cancelled => return .cancelled
  | .completed found =>
    report (.scanFinished .ports scan.total found.length)
    return .completed found

/-- Adds the targets that the scans of a run find, if it scans. -/
def addScanned (survey : Survey) (targets : List Target) :
    Program RunCalls (Outcome (List Target)) := do
  if survey.plan.mode.isScanning then
    match ← survey.scanHosts with
    | .cancelled => return .cancelled
    | .completed addresses =>
      match ← survey.scanPorts addresses with
      | .cancelled => return .cancelled
      | .completed sockets => addOpen sockets targets
  else return .completed targets

/-- Asks targets for their endpoints, the first of which has the given index
among `total`. -/
def askTargets (survey : Survey) (total : Nat) :
    (index : Nat) → List Target → List Registration →
      Program RunCalls (Outcome (List Registration))
  | _, [], collected => return .completed collected
  | index, target :: rest, collected => do
    if ← isCancelled then return .cancelled
    else
      let url := target.url.toText
      report (.endpointsStarted index total url)
      match ← askUnlessCancelled (.find target survey.plan.config.wantedLocales) with
      | .cancelled => return .cancelled
      | .completed (.error reason) =>
        report (.endpointsFinished index total url 0 (some reason))
        askTargets survey total (index + 1) rest collected
      | .completed (.ok endpoints) =>
        let found := survey.registrationsAt target endpoints
        report (.endpointsFinished index total url found.length none)
        askTargets survey total (index + 1) rest (collect collected found)

/-- Asks all targets for their endpoints. -/
def askServers (survey : Survey) (targets : List Target) :
    Program RunCalls (Outcome (List Registration)) := do
  report (.serversStarted targets.length)
  match ← survey.askTargets targets.length 0 targets [] with
  | .cancelled => return .cancelled
  | .completed registrations =>
    report (.serversFinished targets.length registrations.length)
    return .completed registrations

/-- Publishes the registrations.  A batch that is refused makes the run fail,
unless the run was cancelled. -/
def publish (survey : Survey) (registrations : List Registration) : Program RunCalls Ending := do
  let now ← clock
  match ← ask (.publish (batch survey.plan now registrations)) with
  | .ok () => return .finished (endpointPairs registrations).length
  | .error reason =>
    if ← isCancelled then return .cancelled
    else return .failed s!"Failed to publish discovery results: {reason}"

/-- Everything between the first and the last event of a run. -/
def carryOut (survey : Survey) : Program RunCalls Ending := do
  let targets ← addDeclared survey.isContainer survey.plan.config.urls []
  if ← isCancelled then return .cancelled
  else
    match ← survey.addScanned targets with
    | .cancelled => return .cancelled
    | .completed targets =>
      match ← survey.askServers targets with
      | .cancelled => return .cancelled
      | .completed registrations => survey.publish registrations

/-- A run.  One that was cancelled beforehand does not start. -/
def run (survey : Survey) : Program RunCalls Ending := do
  if ← isCancelled then
    report .cancelled
    return .cancelled
  else
    report .started
    let ending ← survey.carryOut
    report ending.event
    return ending

end FieldSurvey.Survey
