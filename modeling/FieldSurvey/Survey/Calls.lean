import FieldSurvey.Model.Discovered
import FieldSurvey.Model.Record
import FieldSurvey.Program
import FieldSurvey.Survey.Event
import FieldSurvey.Survey.Target

/-!
# The calls of a run

A run tells of events, looks at whether it was cancelled and reads the clock;
these calls are answered on the spot.  It waits for names, servers and the
receiver of its results, and for its two scans.  Some waits end early if the run
is cancelled; the others go on.
-/

namespace FieldSurvey.Survey

open Address (Ip)
open Model (DiscoveredEndpoint ResultRecord)
open Probe (Outcome Scan)
open Time (Timestamp)

/-- What a run waits for. -/
inductive Wait where
  | resolve (name : String)
  | reverse (ip : Ip)
  | find (target : Target) (locales : List String)
  | publish (batch : List ResultRecord)
  deriving DecidableEq

/-- The answer that ends a wait. -/
abbrev Wait.Answer : Wait → Type
  /- nothing if the name is not known -/
  | resolve _ => Option (List Ip)
  | reverse _ => Option String
  | find _ _ => Except String (List DiscoveredEndpoint)
  | publish _ => Except String Unit

/-- A call of a run. -/
inductive RunCall where
  | report (event : Event)
  | isCancelled
  | clock
  | ask (wait : Wait)
  | askUnlessCancelled (wait : Wait)
  | probe (phase : Phase) (scan : Scan phase.Item)

/-- What a call is answered with. -/
abbrev RunCall.Reply : RunCall → Type
  | report _ => Unit
  | isCancelled => Bool
  | clock => Timestamp
  | ask wait => wait.Answer
  | askUnlessCancelled wait => Outcome wait.Answer
  | probe phase _ => Outcome (List phase.Item)

/-- The calls of a run. -/
abbrev RunCalls : Signature where
  Call := RunCall
  Reply := RunCall.Reply

/-- Tells of an event. -/
def report (event : Event) : Program RunCalls Unit :=
  Program.ask (S := RunCalls) (.report event)

/-- Whether the run was cancelled. -/
def isCancelled : Program RunCalls Bool :=
  Program.ask (S := RunCalls) .isCancelled

/-- The time. -/
def clock : Program RunCalls Timestamp :=
  Program.ask (S := RunCalls) .clock

/-- Waits for an answer. -/
def ask (wait : Wait) : Program RunCalls wait.Answer :=
  Program.ask (S := RunCalls) (.ask wait)

/-- Waits for an answer, unless the run is cancelled first. -/
def askUnlessCancelled (wait : Wait) : Program RunCalls (Outcome wait.Answer) :=
  Program.ask (S := RunCalls) (.askUnlessCancelled wait)

/-- Waits for a scan. -/
def probe (phase : Phase) (scan : Scan phase.Item) :
    Program RunCalls (Outcome (List phase.Item)) :=
  Program.ask (S := RunCalls) (.probe phase scan)

end FieldSurvey.Survey
