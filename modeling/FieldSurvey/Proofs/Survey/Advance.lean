import FieldSurvey.Proofs.Survey.Course
import FieldSurvey.Survey.Activity

/-!
# The course of a run between waits

A run that keeps to the protocol still does so when it is carried out step by step:
what it tells in a step leads from one position to the next, and what it waits for
afterwards is allowed there.
-/

namespace FieldSurvey.Survey

open Model (ProgressKind)
open Probe (Outcome Pool)
open Time (Timestamp)

/-- The program that a waiting run goes on with. -/
def Activity.program : Activity → Program RunCalls Ending
  | asking wait next => .call (.ask wait) next
  | askingUnlessCancelled wait next => .call (.askUnlessCancelled wait) next
  | probing phase scan _ next => .call (.probe phase scan) next

/-- Whether a run after a step suits a position. -/
def Status.Suits (isScanning : Bool) (position : Position) : Status → Prop
  | waiting activity => activity.program.Follows (courseMonitor isScanning) EndsIn position
  | ended ending => position = .ended ending

/-- Where a sequence of events leads. -/
def Position.tellAll (isScanning : Bool) : List Event → Position → Option Position
  | [], position => some position
  | event :: rest, position => (position.tell isScanning event).bind (tellAll isScanning rest)

variable {isScanning : Bool} {position reached : Position}

theorem Position.tellAll_cons {event : Event} {rest : List Event} {next : Position}
    (leads : position.tell isScanning event = some next) :
    position.tellAll isScanning (event :: rest) = next.tellAll isScanning rest := by
  simp [tellAll, leads]

/-- What leads from one position to another takes the words along. -/
theorem Position.reach_tellAll {events : List Event} {word : List ProgressKind}
    (leads : position.tellAll isScanning events = some reached)
    (member : word ∈ position.reach isScanning) :
    word ++ events.map Event.kind ∈ reached.reach isScanning := by
  induction events generalizing position word with
  | nil =>
      cases leads
      rwa [List.map_nil, List.append_nil]
  | cons event rest ih =>
      obtain ⟨next, first, onward⟩ := Option.bind_eq_some_iff.mp leads
      have further := ih onward (reach_tell first member)
      rwa [List.append_assoc] at further

/-- A step of a run, from a position that it suits. -/
structure StepFrom (isScanning : Bool) (position : Position) (step : List Event × Status) :
    Prop where
  exists_reached : ∃ reached, position.tellAll isScanning step.1 = some reached ∧
    step.2.Suits isScanning reached

theorem StepFrom.cons {event : Event} {next : Position} {step : List Event × Status}
    (leads : position.tell isScanning event = some next) (rest : StepFrom isScanning next step) :
    StepFrom isScanning position (event :: step.1, step.2) := by
  obtain ⟨reached, onward, suits⟩ := rest
  exact ⟨reached, by rw [Position.tellAll_cons leads, onward], suits⟩

theorem StepFrom.still {status : Status} (suits : status.Suits isScanning position) :
    StepFrom isScanning position ([], status) :=
  ⟨position, rfl, suits⟩

theorem tell_report (phase : Phase) (report : Probe.Report phase.Item) :
    (Position.running (.probing phase)).tell isScanning (.ofReport phase report) =
      some (.running (.probing phase)) := by
  cases report <;> simp [Event.ofReport, Position.tell, Stage.tell]

/-- A run that advances keeps to the protocol. -/
theorem advance_stepFrom (now : Timestamp) (cancelled : Bool) {program : Program RunCalls Ending}
    (follows : program.Follows (courseMonitor isScanning) EndsIn position) :
    StepFrom isScanning position (advance now cancelled program) := by
  induction program generalizing position with
  | done ending => exact .still follows
  | call request next ih =>
      obtain ⟨allowed, rest⟩ := follows
      cases request with
      | report event =>
          obtain ⟨further, leads⟩ := Option.isSome_iff_exists.mp allowed
          have onward := rest ()
          simp only [courseMonitor, replied, leads, Option.getD_some] at onward
          exact .cons leads (ih () onward)
      | isCancelled => exact ih cancelled (rest cancelled)
      | clock => exact ih now (rest now)
      | ask wait => exact .still ⟨allowed, rest⟩
      | askUnlessCancelled wait =>
          unfold advance
          split
          · exact ih _ (rest _)
          · exact .still ⟨allowed, rest⟩
      | probe phase scan =>
          unfold advance
          dsimp only
          split
          · have atScan : position = .running (.probing phase) := allowed
            subst atScan
            exact .cons (tell_report phase _) (ih _ (rest _))
          · exact .still ⟨allowed, rest⟩

/-- A position before and after what a run waited for is answered. -/
def Position.Answers (position answered : Position) : Prop :=
  answered = position ∨
    position = .running .surveyed ∧ (answered = .running .handed ∨ answered = .running .refused)

theorem Position.reach_answers {answered : Position} {word : List ProgressKind}
    (answers : position.Answers answered) (member : word ∈ position.reach isScanning) :
    word ∈ answered.reach isScanning := by
  rcases answers with rfl | ⟨rfl, rfl | rfl⟩ <;> exact member

/-- Where a waiting run stands once it is woken.  Only the answer to its batch moves it. -/
def Activity.woken (wake : Wake) (position : Position) : Activity → Position
  | asking wait _ =>
    match wake with
    | .answered answers => position.answered wait (answers wait)
    | .happened _ => position
  | askingUnlessCancelled _ _ => position
  | probing _ _ _ _ => position

theorem answers_woken (wake : Wake) {activity : Activity}
    (follows : activity.program.Follows (courseMonitor isScanning) EndsIn position) :
    position.Answers (activity.woken wake position) := by
  cases activity with
  | askingUnlessCancelled wait next => exact Or.inl rfl
  | probing phase scan pool next => exact Or.inl rfl
  | asking wait next =>
      cases wake with
      | happened happening => exact Or.inl rfl
      | answered answers =>
          cases wait with
          | resolve name => exact Or.inl rfl
          | reverse ip => exact Or.inl rfl
          | find target locales => exact Or.inl rfl
          | publish batch =>
              have surveyed : position = .running .surveyed := follows.1
              cases receipt : answers (.publish batch) with
              | ok value =>
                  exact Or.inr ⟨surveyed, Or.inl
                    (by simp [Activity.woken, Position.answered, receipt])⟩
              | error reason =>
                  exact Or.inr ⟨surveyed, Or.inr
                    (by simp [Activity.woken, Position.answered, receipt])⟩

theorem StepFrom.reports {phase : Phase} {step : List Event × Status}
    (rest : StepFrom isScanning (.running (.probing phase)) step)
    (reports : List (Probe.Report phase.Item)) :
    StepFrom isScanning (.running (.probing phase))
      (reports.map (Event.ofReport phase) ++ step.1, step.2) := by
  induction reports with
  | nil => exact rest
  | cons first more ih => exact .cons (tell_report phase first) ih

/-- A run that is woken keeps to the protocol. -/
theorem resume_stepFrom (now : Timestamp) (cancelled : Bool) (wake : Wake) {activity : Activity}
    (follows : activity.program.Follows (courseMonitor isScanning) EndsIn position) :
    StepFrom isScanning (activity.woken wake position) (activity.resume now cancelled wake) := by
  cases activity with
  | asking wait next =>
      obtain ⟨allowed, rest⟩ := follows
      cases wake with
      | answered answers => exact advance_stepFrom now cancelled (rest (answers wait))
      | happened happening => exact .still ⟨allowed, rest⟩
  | askingUnlessCancelled wait next =>
      obtain ⟨allowed, rest⟩ := follows
      simp only [Activity.resume, Activity.woken]
      split
      · exact advance_stepFrom now cancelled (rest .cancelled)
      · cases wake with
        | answered answers =>
            exact advance_stepFrom now cancelled (rest (.completed (answers wait)))
        | happened happening => exact .still ⟨allowed, rest⟩
  | probing phase scan pool next =>
      obtain ⟨allowed, rest⟩ := follows
      have atScan : position = .running (.probing phase) := allowed
      subst atScan
      simp only [Activity.woken]
      cases wake with
      | answered answers => exact .still ⟨rfl, rest⟩
      | happened happening =>
          simp only [Activity.resume]
          split
          · have onward := advance_stepFrom now cancelled
              (rest (pool.next scan.targets cancelled happening).1.outcome)
            exact (StepFrom.cons (tell_report phase _) onward).reports _
          · have waits : Status.Suits isScanning (.running (.probing phase))
                (.waiting
                  (.probing phase scan (pool.next scan.targets cancelled happening).1 next)) :=
              ⟨rfl, rest⟩
            simpa using
              (StepFrom.still waits).reports (pool.next scan.targets cancelled happening).2

end FieldSurvey.Survey
