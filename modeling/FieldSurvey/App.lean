import FieldSurvey.Registry.Delivery
import FieldSurvey.Registry.Listing
import FieldSurvey.Settings.Check
import FieldSurvey.Survey.Catalog
import FieldSurvey.Surveyor.Schedule
import FieldSurvey.Surveyor.Work

/-!
# The application

The application is a surveyor whose runs deliver their batches to a registry.  A
third party beside the callers and the worker reconciles the delivered batches,
one at a time and in the order of their delivery.
-/

namespace FieldSurvey

open Model (Registration ResultRecord)
open Time (Timestamp)

/-- The application. -/
structure App where
  surveyor : Surveyor
  delivery : Registry.Delivery := {}
  registry : Registry.Contents := {}
  /-- how often a write of the registry is tried -/
  attempts : Nat := Registry.Run.defaultAttempts

namespace App

/-- The wording of what keeps the application from starting: the fault of its
settings, in all its layers. -/
def refusal (fault : Settings.Fault) : String :=
  s!"Invalid configuration: {(CoreFault.settings fault).message}: {fault.message}"

/-- Starts the application, unless its settings are at fault. -/
def start (settings : Settings) (isContainer : Bool) (now : Nat) : Except Settings.Fault App := do
  settings.check
  let discovery := settings.discovery
  return {
    surveyor := Surveyor.start settings.discoverer discovery.queueCapacity.toNat
      (discovery.initialScanDelay.toNat * 1000) (discovery.progressInterval.toNat * 1000)
      isContainer now
    attempts := settings.registry.maxUpdateRetries.toNat }

/-- Hands the batch of a run over.  Without an answer the run has to wait. -/
def deliver (batch : List ResultRecord) (isCancelled : Bool) (app : App) :
    Option (Except String Unit) × App :=
  match app.delivery.offer batch isCancelled with
  | .taken delivery => (some (.ok ()), { app with delivery })
  | .refused reason => (some (.error reason), app)
  | .full => (none, app)

/-- Reconciles the registry with the next batch.  A batch that fails is dropped. -/
def reconcileNext (supply : Nat → String) (now : Timestamp) (app : App) : App :=
  match app.delivery.batches with
  | [] => app
  | batch :: rest =>
    let (_, registry) :=
      (Registry.reconcileBatch app.surveyor.discoverer.id app.attempts now batch).run
        (Registry.Contents.handler supply) app.registry
    { app with registry, delivery := { app.delivery with batches := rest } }

/-- The registrations of one discoverer, or of all. -/
def registrations (supply : Nat → String) (discovererId : Option String) (app : App) :
    Except Registry.Fault (List Registration) :=
  ((Registry.registrations discovererId).run (Registry.Contents.handler supply) app.registry).1

end App

end FieldSurvey
