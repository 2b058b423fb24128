import FieldSurvey.Survey.Run

/-!
# Runs between waits

A run advances from one wait to the next in a single step.  While it waits it is
an activity: it waits for an answer or has a pool at work, and knows how it goes
on.  Whatever wakes the activity makes the run advance again.
-/

namespace FieldSurvey.Survey

open Probe (Outcome Pool Scan)
open Time (Timestamp)

/-- A run that waits. -/
inductive Activity where
  | asking (wait : Wait) (next : wait.Answer → Program RunCalls Ending)
  | askingUnlessCancelled (wait : Wait) (next : Outcome wait.Answer → Program RunCalls Ending)
  | probing (phase : Phase) (scan : Scan phase.Item) (pool : Pool phase.Item)
      (next : Outcome (List phase.Item) → Program RunCalls Ending)

/-- A run after a step. -/
inductive Status where
  | waiting (activity : Activity)
  | ended (ending : Ending)

/-- Makes a run advance to its next wait, or to its end.  With the events that it
tells on the way. -/
def advance (now : Timestamp) (isCancelled : Bool) : Program RunCalls Ending → List Event × Status
  | .done ending => ([], .ended ending)
  | .call (.report event) next =>
    let (events, status) := advance now isCancelled (next ())
    (event :: events, status)
  | .call .isCancelled next => advance now isCancelled (next isCancelled)
  | .call .clock next => advance now isCancelled (next now)
  | .call (.ask wait) next => ([], .waiting (.asking wait next))
  | .call (.askUnlessCancelled wait) next =>
    if isCancelled then advance now isCancelled (next .cancelled)
    else ([], .waiting (.askingUnlessCancelled wait next))
  | .call (.probe phase scan) next =>
    let pool : Pool phase.Item :=
      (Pool.start scan.config scan.total).proceed scan.targets isCancelled
    if pool.isDone then
      let (events, status) := advance now isCancelled (next pool.outcome)
      (.ofReport phase pool.lastReport :: events, status)
    else ([], .waiting (.probing phase scan pool next))

/-- What may wake a run. -/
inductive Wake where
  /-- the answer to whatever the run waits for -/
  | answered (answers : (wait : Wait) → wait.Answer)
  /-- something happens to a pool, or a cancellation is noticed -/
  | happened (happening : Pool.Happening)

/-- Wakes a run.  What does not concern it is left out of account. -/
def Activity.resume (now : Timestamp) (isCancelled : Bool) (wake : Wake) :
    Activity → List Event × Status
  | .asking wait next =>
    match wake with
    | .answered answers => advance now isCancelled (next (answers wait))
    | .happened _ => ([], .waiting (.asking wait next))
  | .askingUnlessCancelled wait next =>
    if isCancelled then advance now isCancelled (next .cancelled)
    else
      match wake with
      | .answered answers => advance now isCancelled (next (.completed (answers wait)))
      | .happened _ => ([], .waiting (.askingUnlessCancelled wait next))
  | .probing phase scan pool next =>
    match wake with
    | .answered _ => ([], .waiting (.probing phase scan pool next))
    | .happened happening =>
      let (pool, reports) := pool.next scan.targets isCancelled happening
      let told := reports.map (Event.ofReport phase)
      if pool.isDone then
        let (events, status) := advance now isCancelled (next pool.outcome)
        (told ++ .ofReport phase pool.lastReport :: events, status)
      else (told, .waiting (.probing phase scan pool next))

end FieldSurvey.Survey
