import FieldSurvey.Survey.Activity
import FieldSurvey.Surveyor.Timer

/-!
# The surveyor

The surveyor accepts requests and carries them out one at a time, in the order in
which they were accepted.  A standing request is submitted again and again by a
timer.  Whoever submits requests, the timer and the worker that carries them out
take turns; a turn leaves a surveyor and the signals that were given.
-/

/-! ## Statistics -/

namespace FieldSurvey.Surveyor

/-- Counts over all requests so far. -/
structure Stats where
  submitted : Nat := 0
  rejected : Nat := 0
  finished : Nat := 0
  cancelled : Nat := 0
  failed : Nat := 0
  deriving DecidableEq, Repr

namespace Stats

/-- A request was accepted. -/
def countSubmitted (stats : Stats) : Stats :=
  { stats with submitted := stats.submitted + 1 }

/-- A request was rejected. -/
def countRejected (stats : Stats) : Stats :=
  { stats with rejected := stats.rejected + 1 }

/-- A request ran to its end. -/
def countFinished (stats : Stats) : Stats :=
  { stats with finished := stats.finished + 1 }

/-- A request was cancelled. -/
def countCancelled (stats : Stats) : Stats :=
  { stats with cancelled := stats.cancelled + 1 }

/-- A request failed. -/
def countFailed (stats : Stats) : Stats :=
  { stats with failed := stats.failed + 1 }

end Stats

end FieldSurvey.Surveyor

/-! ## State and turns -/

namespace FieldSurvey

open Survey (Activity Ending Event Reporter)
open Time (Timestamp)

namespace Surveyor

/-- A point in time, on the clock that the timer runs by and on the calendar. -/
structure Moment where
  millis : Nat
  timestamp : Timestamp

/-- An accepted request, which its ticket tells from all others. -/
structure Entry where
  ticket : Nat
  job : Job
  deriving DecidableEq

/-- What the worker does. -/
inductive Worker where
  | idle
  | running (ticket : Nat) (job : Job) (activity : Activity)
  | stopped

/-- An event that is told of a request.  A request that was not accepted has no
ticket. -/
structure Signal where
  ticket : Option Nat
  reporter : Reporter
  event : Event
  deriving DecidableEq

end Surveyor

open Surveyor in
/-- A surveyor. -/
structure Surveyor where
  discoverer : Settings.Discoverer
  /-- how many requests may wait; at least one may -/
  capacity : Nat
  /-- milliseconds before the first periodic scan -/
  initialDelay : Nat
  /-- milliseconds between two reports of a scan -/
  reportInterval : Nat
  /-- whether this machine is a container -/
  isContainer : Bool
  /-- the request that is submitted periodically -/
  standing : Job := .ofRequest {} {}
  /-- the requests that wait or run, in the order in which they were accepted -/
  pending : List Entry := []
  /-- the tickets of the requests that wait, in the order in which they start -/
  queue : List Nat := []
  isStopping : Bool := false
  timer : Timer := {}
  worker : Worker := .idle
  stats : Stats := {}
  /-- how many requests were accepted, which is the next ticket -/
  accepted : Nat := 0

namespace Surveyor

/-- Who tells of a request. -/
def reporter (surveyor : Surveyor) (job : Job) : Reporter where
  discovererId := surveyor.discoverer.id
  requestId := job.plan.request.id
  context := job.plan.request.context

/-- An event of a request. -/
def signal (surveyor : Surveyor) (ticket : Option Nat) (job : Job) (event : Event) : Signal where
  ticket := ticket
  reporter := surveyor.reporter job
  event := event

/-- The request of a ticket. -/
def job? (surveyor : Surveyor) (ticket : Nat) : Option Job :=
  (surveyor.pending.find? fun entry => entry.ticket == ticket).map Entry.job

/-- Whether the request of a ticket was cancelled. -/
def isCancelled (surveyor : Surveyor) (ticket : Nat) : Bool :=
  (surveyor.job? ticket).any Job.isCancelled

/-- Whether a periodic scan waits or runs. -/
def hasScan (surveyor : Surveyor) : Bool :=
  surveyor.pending.any fun entry => entry.job.isScan

/-- Cancels the requests that a test picks. -/
def cancelWhere (test : Job → Bool) (surveyor : Surveyor) : Surveyor :=
  { surveyor with
    pending := surveyor.pending.map fun entry =>
      if test entry.job then { entry with job := entry.job.cancel } else entry }

/-- Arms the timer. -/
def arm (now delay : Nat) (surveyor : Surveyor) : Surveyor :=
  { surveyor with timer := surveyor.timer.arm now delay }

@[simp]
theorem hasScan_cancelWhere (test : Job → Bool) (surveyor : Surveyor) :
    (surveyor.cancelWhere test).hasScan = surveyor.hasScan := by
  simp only [hasScan, cancelWhere, List.any_map]
  refine congrArg surveyor.pending.any (funext fun entry => ?_)
  by_cases picked : test entry.job <;> simp [picked, Job.cancel]

end Surveyor

/-- The time between two scans in milliseconds. -/
def Job.idleMillis (job : Job) : Nat :=
  job.plan.idleTime.toNat * 1000

end FieldSurvey
