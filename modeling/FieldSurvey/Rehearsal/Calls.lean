import FieldSurvey.Rehearsal.Stage

/-!
# Callers on the stage

Callers act between the polls of the tasks: what they do is done before any task
goes on, unless they sleep or wait for the application to come to an end.
-/

namespace FieldSurvey.Rehearsal.Stage

open Model (Mode Request ScanConfig)
open Surveyor (Rejection)

/-- The surroundings of this machine.  The container's host is looked up once. -/
def surroundings (stage : Stage) : Surroundings × Stage :=
  let network := stage.cast.network
  match stage.containerHost with
  | some containerHost => ({ interfaces := network.interfaces, containerHost }, stage)
  | none =>
    let containerHost := network.containerHost
    let stage :=
      if network.isContainer then stage.note (.resolved Survey.containerHostName) else stage
    ({ interfaces := network.interfaces, containerHost },
      { stage with containerHost := some containerHost })

/-- A turn of a caller. -/
def call (act : Surveyor → Surveyor × List Surveyor.Signal) (stage : Stage) : Stage :=
  (stage.turn act).enlist

/-- Submits a request. -/
def discover (request : Request) (stage : Stage) : Option Rejection × Stage :=
  let (surroundings, stage) := stage.surroundings
  ((stage.app.surveyor.discover request surroundings).1,
    stage.call fun surveyor => (surveyor.discover request surroundings).2)

/-- Cancels every request of an id, and tells how many there are. -/
def cancel (id : String) (stage : Stage) : Nat × Stage :=
  ((stage.app.surveyor.cancel id).1,
    stage.call fun surveyor => ((surveyor.cancel id).2, []))

/-- Sets the standing request. -/
def configure (mode : Mode) (config : ScanConfig) (stage : Stage) : Stage :=
  let (surroundings, stage) := stage.surroundings
  stage.call fun surveyor => (surveyor.configure mode config surroundings stage.now, [])

/-- Has the standing request submitted at once. -/
def scan (stage : Stage) : Stage :=
  stage.call fun surveyor => (surveyor.scan stage.now, [])

/-- Stops the application without waiting for it. -/
def stop (stage : Stage) : Stage :=
  stage.call fun surveyor => (surveyor.stop, [])

/-- Lets some milliseconds pass, for as long as anything can be put off. -/
def sleep (millis : Nat) (stage : Stage) : Stage :=
  if millis = 0 then stage
  else stage.playUntil (stage.now + Surveyor.Timer.bounded millis) enoughSteps

/-- Whether the worker has stopped. -/
def hasStopped (stage : Stage) : Bool :=
  match stage.app.surveyor.worker with
  | .stopped => true
  | _ => false

/-- Stops the surveyor and waits for its worker. -/
def shutDown (stage : Stage) : Stage :=
  let stage := stage.stop
  if stage.hasStopped then stage else stage.playUntilHolds hasStopped enoughSteps

/-- Closes the queue to the registry and waits until it is empty. -/
def closeDelivery (stage : Stage) : Stage :=
  if stage.app.delivery.isClosed then stage
  else
    ({ stage with app := { stage.app with delivery := stage.app.delivery.close } } : Stage)
      |>.playUntilHolds (fun stage => stage.app.delivery.isOver) enoughSteps

/-- The notes taken so far, in order, and the stage without them. -/
def takeNotes (stage : Stage) : List (Nat × Note) × Stage :=
  (stage.notes.reverse, { stage with notes := [] })

end FieldSurvey.Rehearsal.Stage
