import FieldSurvey.Proofs.Survey.Advance

/-!
# How a run concludes

A run that waits has not been told what became of its batch.  Once it is told, it ends in
the same step: as finished, and with nothing else to tell, if the batch was taken, and in
another way if it was refused.  In no other step a run is told to have finished.
-/

namespace FieldSurvey.Survey

open Model (ProgressKind)
open Time (Timestamp)

variable {isScanning : Bool} {position next reached : Position}

/-- Whether a request runs no more, or is about to end. -/
def Position.isClosing : Position → Bool
  | .waiting => false
  | .running stage => !stage.isOpen
  | .ended _ => true

/-- A run that waits may still wait. -/
theorem isOpen_of_follows {activity : Activity}
    (follows : activity.program.Follows (courseMonitor isScanning) EndsIn position) :
    position.isOpen := by
  cases activity with
  | asking wait next =>
      have allowed_ := follows.1
      by_cases publishes : wait.isPublish
      · have surveyed : position = .running .surveyed := by
          simpa [courseMonitor, allowed, publishes] using allowed_
        rw [surveyed]
        rfl
      · simpa [courseMonitor, allowed, publishes] using allowed_
  | askingUnlessCancelled wait next => exact follows.1.2
  | probing phase scan pool next =>
      have atScan : position = .running (.probing phase) := follows.1
      rw [atScan]
      rfl

theorem not_isOpen_of_isClosing (closing : position.isClosing) : ¬position.isOpen := by
  cases position with
  | waiting => contradiction
  | running stage => simpa [Position.isClosing, Position.isOpen] using closing
  | ended ending => simp [Position.isOpen]

/-! ## What events lead to -/

theorem exists_of_kind_finished {event : Event} (isFinished : event.kind = .finished) :
    ∃ records, event = .finished records := by
  unfold Event.kind at isFinished
  split at isFinished
  case h_15 records => exact ⟨records, rfl⟩
  all_goals contradiction

/-- In the course of a run nothing is told that finishes it. -/
theorem Stage.tell_apart {stage further : Stage} {event : Event}
    (leads : stage.tell isScanning event = some further) :
    further.isOpen ∧ stage.isOpen ∧ event.kind ≠ .finished := by
  have notFinished : event.kind ≠ .finished := by
    intro isFinished
    obtain ⟨records, rfl⟩ := exists_of_kind_finished isFinished
    simp [Stage.tell] at leads
  refine ⟨?_, ?_, notFinished⟩
  all_goals
    unfold Stage.tell at leads
    split at leads
    case h_11 => contradiction
    all_goals
      first
      | cases leads
      | (split at leads <;> cases leads)
      rfl

/-- In the course of a run nothing is told that begins or ends it, and it waits for
its turn no more. -/
theorem Stage.kind_of_tell {stage further : Stage} {event : Event}
    (leads : stage.tell isScanning event = some further) :
    ¬event.kind.isTerminal ∧ event.kind ≠ .started ∧ event.kind ≠ .pending := by
  cases event with
  | pending ahead => simp [Stage.tell] at leads
  | started => simp [Stage.tell] at leads
  | finished records => simp [Stage.tell] at leads
  | cancelled => simp [Stage.tell] at leads
  | failed reason => simp [Stage.tell] at leads
  | scanStarted phase workers total => cases phase <;> simp [Event.kind, ProgressKind.isTerminal]
  | scanFound phase item counters => cases phase <;> simp [Event.kind, ProgressKind.isTerminal]
  | scanProgress phase counters => cases phase <;> simp [Event.kind, ProgressKind.isTerminal]
  | scanFinished phase total found => cases phase <;> simp [Event.kind, ProgressKind.isTerminal]
  | _ => simp [Event.kind, ProgressKind.isTerminal]

theorem isClosing_of_tell {event : Event} (closing : position.isClosing)
    (leads : position.tell isScanning event = some next) : next.isClosing := by
  unfold Position.tell at leads
  split at leads
  case h_4 =>
    split at leads <;> cases leads
    rfl
  case h_7 =>
    obtain ⟨further, onward, rfl⟩ := Option.map_eq_some_iff.mp leads
    obtain ⟨-, isOpen, -⟩ := Stage.tell_apart onward
    simp [Position.isClosing, isOpen] at closing
  case h_8 => contradiction
  all_goals
    cases leads
    first
    | rfl
    | contradiction

theorem apart_of_tell {event : Event} (apart : position ≠ .running .handed)
    (leads : position.tell isScanning event = some next) :
    next ≠ .running .handed ∧ event.kind ≠ .finished := by
  unfold Position.tell at leads
  split at leads
  case h_4 =>
    split at leads <;> cases leads
    simp [Event.kind]
  case h_5 => contradiction
  case h_7 =>
    obtain ⟨further, onward, rfl⟩ := Option.map_eq_some_iff.mp leads
    obtain ⟨isOpen, -, notFinished⟩ := Stage.tell_apart onward
    refine ⟨?_, notFinished⟩
    rintro handed
    cases handed
    contradiction
  case h_8 => contradiction
  all_goals
    cases leads
    simp [Event.kind]

/-- Who does not wait for its turn is not told how many are ahead, and does not start. -/
theorem underway_of_tell {event : Event} (apart : position ≠ .waiting)
    (leads : position.tell isScanning event = some next) :
    next ≠ .waiting ∧ event.kind ≠ .pending ∧ event.kind ≠ .started := by
  unfold Position.tell at leads
  split at leads
  case h_4 =>
    split at leads <;> cases leads
    simp [Event.kind]
  case h_7 =>
    obtain ⟨further, onward, rfl⟩ := Option.map_eq_some_iff.mp leads
    obtain ⟨-, notStarted, notPending⟩ := Stage.kind_of_tell onward
    exact ⟨by simp, notPending, notStarted⟩
  case h_8 => contradiction
  all_goals
    cases leads
    first
    | contradiction
    | simp [Event.kind]

theorem underway_of_tellAll {events : List Event} (apart : position ≠ .waiting)
    (leads : position.tellAll isScanning events = some reached) :
    ∀ event ∈ events, event.kind ≠ .pending ∧ event.kind ≠ .started := by
  induction events generalizing position with
  | nil => simp
  | cons event rest ih =>
      obtain ⟨next, first, onward⟩ := Option.bind_eq_some_iff.mp leads
      obtain ⟨nextApart, underway⟩ := underway_of_tell apart first
      exact List.forall_mem_cons.mpr ⟨underway, ih nextApart onward⟩

theorem isClosing_of_tellAll {events : List Event} (closing : position.isClosing)
    (leads : position.tellAll isScanning events = some reached) : reached.isClosing := by
  induction events generalizing position with
  | nil =>
      cases leads
      exact closing
  | cons event rest ih =>
      obtain ⟨next, first, onward⟩ := Option.bind_eq_some_iff.mp leads
      exact ih (isClosing_of_tell closing first) onward

theorem apart_of_tellAll {events : List Event} (apart : position ≠ .running .handed)
    (leads : position.tellAll isScanning events = some reached) :
    ProgressKind.finished ∉ events.map Event.kind := by
  induction events generalizing position with
  | nil => simp
  | cons event rest ih =>
      obtain ⟨next, first, onward⟩ := Option.bind_eq_some_iff.mp leads
      obtain ⟨nextApart, notFinished⟩ := apart_of_tell apart first
      rw [List.map_cons, List.mem_cons, not_or]
      exact ⟨notFinished.symm, ih nextApart onward⟩

/-- A run whose batch was taken is told nothing but that it has finished. -/
theorem kinds_of_handed {events : List Event} {ending : Ending}
    (leads : (Position.running .handed).tellAll isScanning events = some (.ended ending)) :
    events.map Event.kind = [.finished] := by
  cases events with
  | nil => cases leads
  | cons event rest =>
      obtain ⟨next, first, onward⟩ := Option.bind_eq_some_iff.mp leads
      have isFinished :
          ∃ records, event = .finished records ∧ next = .ended (.finished records) := by
        cases event <;> simp [Position.tell, Stage.tell] at first
        case finished records => exact ⟨records, rfl, first.symm⟩
      obtain ⟨records, rfl, rfl⟩ := isFinished
      cases rest with
      | nil => rfl
      | cons more _ =>
          obtain ⟨_, beyond, -⟩ := Option.bind_eq_some_iff.mp onward
          contradiction

/-! ## How a run begins -/

/-- A run that was cancelled beforehand does not start. -/
theorem advance_run_of_cancelled (now : Timestamp) (survey : Survey) :
    advance now true survey.run = ([.cancelled], .ended .cancelled) :=
  rfl

theorem exists_advance_run (now : Timestamp) (survey : Survey) :
    ∃ step : List Event × Status, advance now false survey.run = (.started :: step.1, step.2) :=
  ⟨_, rfl⟩

theorem not_pending_of_advance_run (now : Timestamp) (cancelled : Bool) (survey : Survey) :
    ∀ event ∈ (advance now cancelled survey.run).1, event.kind ≠ .pending := by
  cases cancelled with
  | true =>
      rw [advance_run_of_cancelled]
      simp [Event.kind]
  | false =>
      obtain ⟨reached, leads, -⟩ := advance_stepFrom now false survey.follows_run
      obtain ⟨step, starts⟩ := exists_advance_run now survey
      rw [starts] at leads ⊢
      have onward : (Position.running .begun).tellAll survey.plan.mode.isScanning step.1 =
          some reached := leads
      have rest := underway_of_tellAll (by simp) onward
      exact List.forall_mem_cons.mpr
        ⟨by simp [Event.kind], fun event member => (rest event member).1⟩

/-- A run that is woken is underway. -/
theorem underway_of_resume (now : Timestamp) (cancelled : Bool) (wake : Wake) {activity : Activity}
    (follows : activity.program.Follows (courseMonitor isScanning) EndsIn position) :
    ∀ event ∈ (activity.resume now cancelled wake).1,
      event.kind ≠ .pending ∧ event.kind ≠ .started := by
  have apart : activity.woken wake position ≠ .waiting := by
    have isOpen := isOpen_of_follows follows
    rcases answers_woken wake follows with same | ⟨-, handed | refused⟩
    · rintro isWaiting
      rw [← same, isWaiting] at isOpen
      contradiction
    · simp [handed]
    · simp [refused]
  obtain ⟨reached, leads, -⟩ := resume_stepFrom now cancelled wake follows
  exact underway_of_tellAll apart leads

/-! ## What a step tells -/

namespace StepFrom

variable {step : List Event × Status}

/-- A step of a run whose batch was not taken does not tell that it has finished. -/
theorem not_finished (stepFrom : StepFrom isScanning position step)
    (apart : position ≠ .running .handed) : ProgressKind.finished ∉ step.1.map Event.kind := by
  obtain ⟨reached, leads, -⟩ := stepFrom
  exact apart_of_tellAll apart leads

/-- A run that is about to end does so in a single step. -/
theorem exists_ending (stepFrom : StepFrom isScanning position step)
    (closing : position.isClosing) :
    ∃ ending, step.2 = .ended ending ∧
      position.tellAll isScanning step.1 = some (.ended ending) := by
  obtain ⟨reached, leads, suits⟩ := stepFrom
  cases status : step.2 with
  | waiting activity =>
      rw [status] at suits
      exact absurd (isOpen_of_follows suits)
        (not_isOpen_of_isClosing (isClosing_of_tellAll closing leads))
  | ended ending =>
      rw [status] at suits
      have atEnd : reached = .ended ending := suits
      exact ⟨ending, rfl, atEnd ▸ leads⟩

/-- A step of a run whose batch was taken tells that it has finished, and nothing else. -/
theorem finished (stepFrom : StepFrom isScanning (.running .handed) step) :
    ∃ ending, step.2 = .ended ending ∧ step.1.map Event.kind = [.finished] := by
  obtain ⟨ending, isOver, leads⟩ := stepFrom.exists_ending rfl
  exact ⟨ending, isOver, kinds_of_handed leads⟩

end StepFrom

end FieldSurvey.Survey
