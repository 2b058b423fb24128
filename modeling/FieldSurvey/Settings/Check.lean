import FieldSurvey.Number.Literal
import FieldSurvey.Settings.Basic
import FieldSurvey.Settings.Fault
import FieldSurvey.Text.Basic

/-!
# Checking settings

Settings are checked section by section; the first fault counts.
-/

namespace FieldSurvey.Settings

open Text (isAllBlank lowerAscii)

/-- How much a log line matters. -/
inductive LogLevel where
  | error
  | warn
  | info
  | debug
  | trace
  deriving DecidableEq, Repr

namespace LogLevel

/-- The levels, the most important one first. -/
def all : List LogLevel :=
  [error, warn, info, debug, trace]

/-- The name of a level. -/
def name : LogLevel → String
  | error => "ERROR"
  | warn => "WARN"
  | info => "INFO"
  | debug => "DEBUG"
  | trace => "TRACE"

/-- Reads a level: its name in any case, or its number from 1 for the most
important one to 5. -/
def ofText? (text : String) : Option LogLevel :=
  match Number.read Number.maxLong text.toList with
  | .ok number => if number = 0 then none else all[number - 1]?
  | .error _ => all.find? fun level => Text.sameIgnoringAsciiCase level.name text

end LogLevel

/-- The level of the settings. -/
def Logging.parsedLevel (logging : Logging) : Except Fault LogLevel :=
  match LogLevel.ofText? logging.level with
  | some level => .ok level
  | none => .error (.invalidValue "logging.level" s!"Invalid log level: {logging.level}")

/-- Refuses a number that is zero. -/
def checkPositive (field : String) (value : UInt64) : Except Fault Unit :=
  if value = 0 then .error (.invalidValue field "must be at least 1") else .ok ()

/-- Checks how requests are run. -/
def Discovery.check (discovery : Discovery) : Except Fault Unit := do
  checkPositive "discovery.queue_capacity" discovery.queueCapacity
  checkPositive "discovery.progress_interval_secs" discovery.progressInterval
  match discovery.config.minPortProbesPercent with
  | some percent =>
    if percent = 0 ∨ percent > 100 then
      .error (.invalidValue "discovery.configuration.min_port_probes_percent"
        s!"{percent.toNat} is not within 1..=100")
    else .ok ()
  | none => .ok ()
  match discovery.config.maxPortProbes with
  | some probes => checkPositive "discovery.configuration.max_port_probes" probes
  | none => .ok ()
  match discovery.config.maxNetworkProbes with
  | some probes => checkPositive "discovery.configuration.max_network_probes" probes
  | none => .ok ()

/-- Refuses a blank text. -/
def checkFilled (field text : String) : Except Fault Unit :=
  if isAllBlank text then .error (.invalidValue field "must not be empty") else .ok ()

/-- Checks the servers of the catalog, the first of which has the given
position. -/
def checkCatalog (position : Nat) : List CatalogServer → Except Fault Unit
  | [] => .ok ()
  | server :: rest => do
    checkFilled s!"catalog[{position}].discovery_url" server.discoveryUrl
    checkFilled s!"catalog[{position}].application.application_uri"
      server.application.applicationUri
    checkCatalog (position + 1) rest

/-- Checks all settings. -/
def check (settings : Settings) : Except Fault Unit := do
  if isAllBlank settings.discoverer.id then .error (.missingField "discoverer.id") else .ok ()
  settings.discovery.check
  checkPositive "registry.max_update_retries" settings.registry.maxUpdateRetries
  let _ ← settings.logging.parsedLevel
  checkCatalog 0 settings.catalog

end FieldSurvey.Settings
