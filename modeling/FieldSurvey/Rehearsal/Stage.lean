import FieldSurvey.App
import FieldSurvey.Rehearsal.Cast

/-!
# The stage

On the stage the application plays with a scripted cast.  Its worker, its timer
and the party that reconciles batches are tasks: those that can go on stand in a
line and are polled in turn, each until it sleeps.  When nobody can go on, the
clock jumps to the next time at which somebody wakes up.
-/

namespace FieldSurvey.Rehearsal

open Model (ResultRecord)
open Survey (Activity Phase Target Wait Wake)
open Surveyor (Moment Signal)
open Time (Timestamp)

/-- A task of the application. -/
inductive Task where
  | worker
  /-- the firing that an arming of the timer asks for -/
  | timer (arming : Nat)
  | reconciler
  deriving DecidableEq

/-- What can be seen on the stage. -/
inductive Note where
  | told (signal : Signal)
  | resolved (name : String)
  | reversed (ip : Address.Ip)
  | probed (phase : Phase) (item : String)
  | asked (target : Target) (locales : List String)
  | published (batch : List ResultRecord)

/-- The application among its cast. -/
structure Stage where
  cast : Cast
  app : App
  /-- the date that is shown to the application -/
  timestamp : Timestamp
  /-- the generations of the registry -/
  supply : Nat → String
  /-- milliseconds on the clock -/
  now : Nat := 0
  /-- the tasks that can go on, in the order in which they are polled -/
  ready : List Task := [.reconciler, .worker]
  /-- when the answer is there that the worker waits for; nothing if the wait has
  not begun -/
  answerAt : Option Nat := none
  /-- the probes of the scan that is at work -/
  probing : Option (Phase × Probing) := none
  /-- the address of the container's host, once it was looked up -/
  containerHost : Option (Option Address.V4) := none
  /-- what was seen and when, the last note first -/
  notes : List (Nat × Note) := []

namespace Stage

/-- The present. -/
def moment (stage : Stage) : Moment :=
  ⟨stage.now, stage.timestamp⟩

/-- Takes a note. -/
def note (note : Note) (stage : Stage) : Stage :=
  { stage with notes := (stage.now, note) :: stage.notes }

/-- A turn of the surveyor. -/
def turn (act : Surveyor → Surveyor × List Signal) (stage : Stage) : Stage :=
  let (surveyor, signals) := act stage.app.surveyor
  let stage := { stage with app := { stage.app with surveyor } }
  signals.foldl (fun stage signal => stage.note (.told signal)) stage

/-- Wakes the worker, which begins its next wait. -/
def wakeWorker (wake : Wake) (stage : Stage) : Stage :=
  { stage.turn (Surveyor.resume stage.moment wake) with answerAt := none }

/-- Takes a note of the beginning of a wait.  A catalog is looked at without a
note. -/
def noteWait (wait : Wait) (stage : Stage) : Stage :=
  match wait with
  | .resolve name => stage.note (.resolved name)
  | .reverse ip => stage.note (.reversed ip)
  | .find target locales =>
    match stage.cast.servers with
    | .scripted _ => stage.note (.asked target locales)
    | .catalog _ => stage
  | .publish batch => stage.note (.published batch)

/-- What the receiver of the results says to a batch, unless the batch has to
wait. -/
def receive (batch : List ResultRecord) (isCancelled : Bool) (stage : Stage) :
    Option (Except String Unit) × Stage :=
  match stage.cast.receiver.failure with
  | some reason => (some (.error s!"publish: {reason}"), stage)
  | none =>
    if stage.cast.receiver.delivers then
      let (receipt, app) := stage.app.deliver batch isCancelled
      (receipt, { stage with app })
    else (some (.ok ()), stage)

/-- A step of a worker that waits for an answer, and whether it goes on. -/
def answerStep (wait : Wait) (isCancelled : Bool) (stage : Stage) : Stage × Bool :=
  match stage.answerAt with
  | none =>
    let answerAt := stage.now + Surveyor.Timer.bounded (stage.cast.delay wait)
    ({ stage.noteWait wait with answerAt := some answerAt }, true)
  | some time =>
    if stage.now < time then (stage, false)
    else
      let (receipt, stage) := match wait with
        | .publish batch => stage.receive batch isCancelled
        | _ => (some (.ok ()), stage)
      match receipt with
      | some receipt => (stage.wakeWorker (.answered (stage.cast.answer receipt)), true)
      | none => (stage, false)

/-- The probes of a phase. -/
def probingOf (phase : Phase) (scan : Probe.Scan phase.Item) (stage : Stage) : Probing :=
  match stage.probing with
  | some (known, probing) => if known = phase then probing else .start scan stage.now
  | none => .start scan stage.now

/-- A step of a worker that scans, and whether it goes on. -/
def probeStep (phase : Phase) (scan : Probe.Scan phase.Item) (pool : Probe.Pool phase.Item)
    (isCancelled : Bool) (stage : Stage) : Stage × Bool :=
  let look := (stage.probingOf phase scan).look scan (stage.cast.probed phase) none stage.now
    isCancelled pool
  let items := look.probed.filterMap scan.targets
  let stage := items.foldl
    (fun stage item => stage.note (.probed phase (phase.itemText item)))
    { stage with probing := some (phase, look.probing) }
  match look.happening with
  | some happening => (stage.wakeWorker (.happened happening), true)
  | none => (stage, false)

/-- A step of a worker that carries out a request, and whether it goes on. -/
def activityStep (activity : Activity) (isCancelled : Bool) (stage : Stage) : Stage × Bool :=
  match activity with
  | .asking wait _ => stage.answerStep wait isCancelled
  | .askingUnlessCancelled wait _ =>
    if isCancelled then (stage.wakeWorker (.happened .noticed), true)
    else stage.answerStep wait isCancelled
  | .probing phase scan pool _ => stage.probeStep phase scan pool isCancelled

/-- A step of the worker, and whether it goes on. -/
def workerStep (stage : Stage) : Stage × Bool :=
  let surveyor := stage.app.surveyor
  match surveyor.worker with
  | .stopped => (stage, false)
  | .idle =>
    if surveyor.isStopping || !surveyor.queue.isEmpty then
      ({ stage.turn (Surveyor.take stage.moment) with answerAt := none, probing := none }, true)
    else (stage, false)
  | .running ticket _ activity => stage.activityStep activity (surveyor.isCancelled ticket)

/-- Polls the worker until it sleeps. -/
def pollWorker : (fuel : Nat) → Stage → Stage
  | 0, stage => stage
  | fuel + 1, stage =>
    match stage.workerStep with
    | (stage, true) => pollWorker fuel stage
    | (stage, false) => stage

/-- Reconciles all batches that were delivered. -/
def pollReconciler (stage : Stage) : Stage :=
  { stage with
    app := stage.app.delivery.batches.foldl
      (fun app _ => app.reconcileNext stage.supply stage.timestamp) stage.app }

/-- Polls a task.  A firing is void once the timer was armed again. -/
def poll (task : Task) (stage : Stage) : Stage :=
  match task with
  | .worker => stage.pollWorker enoughSteps
  | .timer arming =>
    if arming = stage.app.surveyor.timer.armings then stage.turn (Surveyor.fire stage.now)
    else stage
  | .reconciler => stage.pollReconciler

/-- Adds a task to the line if it can go on and does not stand there. -/
def enlistIf (isAwake : Bool) (task : Task) (stage : Stage) : Stage :=
  if isAwake && !stage.ready.contains task then { stage with ready := stage.ready ++ [task] }
  else stage

/-- Adds all tasks to the line that can go on. -/
def enlist (stage : Stage) : Stage :=
  let timer := stage.app.surveyor.timer
  ((stage.enlistIf stage.workerStep.2 .worker).enlistIf
    (!stage.app.delivery.batches.isEmpty) .reconciler).enlistIf
    (timer.isDue stage.now) (.timer timer.armings)

/-- Polls tasks until none can go on. -/
def runReady : (fuel : Nat) → Stage → Stage
  | 0, stage => stage
  | fuel + 1, stage =>
    match stage.ready with
    | [] => stage
    | task :: rest => runReady fuel (({ stage with ready := rest } : Stage).poll task).enlist

/-- The times at which somebody wakes up. -/
def alarms (stage : Stage) : List Nat :=
  let worker := match stage.app.surveyor.worker with
    | .running _ _ (.probing _ _ _ _) => stage.probing.toList.map fun entry => entry.2.wakesAt
    | .running _ _ _ => stage.answerAt.toList
    | _ => []
  (worker ++ stage.app.surveyor.timer.dueAt.toList).filter (stage.now < ·)

/-- The stage at a later time, with everybody awake whose time has come. -/
def jump (time : Nat) (stage : Stage) : Stage :=
  ({ stage with
      now := time
      probing := stage.probing.map fun (phase, probing) =>
        (phase, probing.wake time) } : Stage).enlist

/-- Lets the application play until a time has come.  Whoever waits for that time
goes on before all tasks that it wakes. -/
def playUntil (time : Nat) : (fuel : Nat) → Stage → Stage
  | 0, stage => stage
  | fuel + 1, stage =>
    let stage := stage.runReady enoughSteps
    let next := stage.alarms.foldl min time
    let stage := stage.jump next
    if next = time then stage else playUntil time fuel stage

/-- Lets the application play until something holds. -/
def playUntilHolds (test : Stage → Bool) : (fuel : Nat) → Stage → Stage
  | 0, stage => stage
  | fuel + 1, stage =>
    let stage := stage.runReady enoughSteps
    if test stage then stage
    else
      match stage.alarms with
      | [] => stage
      | first :: rest => playUntilHolds test fuel (stage.jump (rest.foldl min first))

end Stage

end FieldSurvey.Rehearsal
