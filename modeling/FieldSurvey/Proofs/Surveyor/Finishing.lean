import FieldSurvey.Proofs.Survey.Conclusion
import FieldSurvey.Proofs.Surveyor.Requests

/-!
# Which requests finish

A request finishes in the very step in which the worker is told that its batch was taken,
and in no other.  Until then the worker stands by with the batch; afterwards, and also if
the batch is refused, the request is gone for good.
-/

namespace FieldSurvey.Surveyor

open Model (ProgressKind ResultRecord)
open Survey (Activity Ending Event Position Status StepFrom Wait Wake courseMonitor EndsIn)

/-- The tickets of the requests that are told to have finished, in that order. -/
def finished (signals : List Signal) : List Nat :=
  signals.filterMap fun signal =>
    if signal.event.kind = .finished then signal.ticket else none

@[simp]
theorem finished_append (front back : List Signal) :
    finished (front ++ back) = finished front ++ finished back := by
  simp [finished]

/-- Whether no request is told to have finished. -/
def Unfinished (signals : List Signal) : Prop :=
  ∀ signal ∈ signals, signal.event.kind ≠ .finished

theorem unfinished_nil : Unfinished [] :=
  fun _ member => absurd member List.not_mem_nil

theorem Unfinished.finished_eq_nil {signals : List Signal} (unfinished : Unfinished signals) :
    finished signals = [] := by
  apply List.filterMap_eq_nil_iff.mpr
  intro signal member
  exact if_neg (unfinished signal member)

theorem Unfinished.append {front back : List Signal} (first : Unfinished front)
    (second : Unfinished back) : Unfinished (front ++ back) := by
  intro signal member
  rcases List.mem_append.mp member with inFront | inBack
  · exact first signal inFront
  · exact second signal inBack

theorem unfinished_map_signal (surveyor : Surveyor) (ticket : Option Nat) (job : Job)
    (events : List Event) (apart : ProgressKind.finished ∉ events.map Event.kind) :
    Unfinished (events.map (surveyor.signal ticket job)) := by
  intro signal member
  obtain ⟨event, inEvents, rfl⟩ := List.mem_map.mp member
  intro isFinished
  exact apart (List.mem_map.mpr ⟨event, inEvents, isFinished⟩)

/-- The batch that the worker waits to hand over, with the ticket of its request. -/
def handing (surveyor : Surveyor) : Option (Nat × List ResultRecord) :=
  match surveyor.worker with
  | .running ticket _ (.asking (.publish batch) _) => some (ticket, batch)
  | _ => none

/-- A worker that carries out a request keeps to the protocol. -/
def Working (surveyor : Surveyor) : Prop :=
  ∀ ticket job activity, surveyor.worker = .running ticket job activity →
    ∃ isScanning position,
      activity.program.Follows (courseMonitor isScanning) EndsIn position

theorem working_start (discoverer : Settings.Discoverer)
    (capacity initialDelay reportInterval : Nat) (isContainer : Bool) (now : Nat) :
    Working (start discoverer capacity initialDelay reportInterval isContainer now) := by
  intro ticket job activity works
  contradiction

variable {surveyor : Surveyor} {ticket : Nat} {job : Job} {isScanning : Bool}

theorem working_of_worker_eq {other : Surveyor} (working : Working surveyor)
    (same : other.worker = surveyor.worker) : Working other := by
  intro ticket job activity works
  exact working ticket job activity (same ▸ works)

/-! ## Turns of others than the worker -/

/-- A step that leaves the worker alone, and in which no request finishes. -/
structure Aside (before : Surveyor) (step : Surveyor × List Signal) : Prop where
  worker : step.1.worker = before.worker
  unfinished : Unfinished step.2

theorem Alike.aside {before after : Surveyor} (alike : Alike before after) :
    Aside before (after, []) :=
  ⟨alike.worker, unfinished_nil⟩

theorem aside_submit (surveyor : Surveyor) (job : Job) :
    Aside surveyor (surveyor.submit job).2 := by
  unfold submit
  split
  · constructor
    · rfl
    · exact unfinished_map_signal surveyor none job [.failed _] (by simp [Event.kind])
  · constructor
    · rfl
    · dsimp only
      split
      · exact unfinished_nil
      · exact unfinished_map_signal surveyor _ job [.pending _] (by simp [Event.kind])

theorem composable_aside : Composable Aside where
  trans first second :=
    ⟨second.worker.trans first.worker, first.unfinished.append second.unfinished⟩
  timer _ _ := ⟨rfl, unfinished_nil⟩
  cancelWhere surveyor test := (alike_cancelWhere test surveyor).aside
  submit := aside_submit

/-- Whether it is the worker who takes a turn. -/
def Turn.isWork : Turn → Bool
  | take _ => true
  | resume _ _ => true
  | _ => false

theorem aside_act (turn : Turn) (others : ¬turn.isWork) (surveyor : Surveyor) :
    Aside surveyor (turn.act surveyor) := by
  cases turn with
  | discover request surroundings => exact aside_submit surveyor _
  | register request surroundings => exact aside_submit surveyor _
  | cancel id => exact (alike_cancelWhere (hasId id) surveyor).aside
  | configure mode config surroundings now =>
      exact (alike_configure mode config surroundings now surveyor).aside
  | scan now => exact (alike_arm now 0 surveyor).aside
  | shutDown => exact (alike_stop surveyor).aside
  | fire now => exact composable_aside.fire surveyor now
  | take now => exact absurd rfl others
  | resume now wake => exact absurd rfl others

/-! ## Turns of the worker -/

theorem working_settle (surveyor : Surveyor) (now ticket : Nat) (job : Job) {position : Position}
    {step : List Event × Status} (stepFrom : StepFrom isScanning position step) :
    Working (surveyor.settle now ticket job step).1 := by
  obtain ⟨reached, -, suits⟩ := stepFrom
  rcases step with ⟨events, activity | ending⟩
  · intro other twin activity_ works
    obtain ⟨-, -, rfl⟩ := Worker.running.inj works
    exact ⟨isScanning, reached, suits⟩
  · intro other twin activity works
    have idle : (surveyor.finish now ticket job ending).worker = .idle :=
      (alike_finish surveyor now ticket job ending).worker
    rw [settle, idle] at works
    contradiction

/-- A step of the worker in which no request finishes. -/
structure Labours (step : Surveyor × List Signal) : Prop where
  working : Working step.1
  unfinished : Unfinished step.2

theorem labours_settle (surveyor : Surveyor) (now ticket : Nat) (job : Job) {position : Position}
    {step : List Event × Status} (stepFrom : StepFrom isScanning position step)
    (apart : position ≠ .running .handed) : Labours (surveyor.settle now ticket job step) where
  working := working_settle surveyor now ticket job stepFrom
  unfinished := by
    rw [signals_settle]
    exact unfinished_map_signal surveyor _ job _ (stepFrom.not_finished apart)

theorem unfinished_positions (surveyor : Surveyor) (ticket : Nat) :
    Unfinished (surveyor.positions ticket) := by
  intro signal member
  obtain ⟨⟨entry, index⟩, -, told⟩ := List.mem_filterMap.mp member
  simp only at told
  split at told
  · contradiction
  · cases told
    simp [signal, Event.kind]

theorem unfinished_drain (tickets : List Nat) (surveyor : Surveyor) :
    Unfinished (drain tickets surveyor).2 := by
  induction tickets generalizing surveyor with
  | nil => exact unfinished_nil
  | cons first rest ih =>
      unfold drain
      split
      · exact ih surveyor
      · rename_i job _
        exact (unfinished_map_signal surveyor (some first) job [.cancelled]
          (by simp [Event.kind])).append (ih _)

theorem labours_take (orderly : Orderly surveyor) (working : Working surveyor) (now : Moment) :
    Labours (surveyor.take now) := by
  have still : Labours (surveyor, []) := ⟨working, unfinished_nil⟩
  have taken := takes orderly now
  generalize surveyor.take now = step at taken ⊢
  cases taken with
  | busy works => exact still
  | retires idle stopping =>
      constructor
      · intro ticket job activity works
        rw [(drained_retire orderly idle).worker] at works
        contradiction
      · exact unfinished_drain _ _
  | rests idle nothing => exact still
  | begins ticket rest job idle queued found =>
      have stepFrom := Survey.advance_stepFrom now.timestamp job.isCancelled
        (Survey.follows_run (Surveyor.survey { surveyor with queue := rest } job))
      have labours := labours_settle { surveyor with queue := rest } now.millis ticket job
        stepFrom (by simp)
      constructor
      · exact labours.working
      · exact (unfinished_positions _ ticket).append labours.unfinished

/-! ## Handing a batch over -/

theorem exists_of_handing {batch : List ResultRecord}
    (hands : surveyor.handing = some (ticket, batch)) :
    ∃ job next, surveyor.worker = .running ticket job (.asking (.publish batch) next) := by
  unfold handing at hands
  split at hands
  case h_1 job found next works =>
    cases hands
    exact ⟨job, next, works⟩
  case h_2 => contradiction

theorem mem_tickets_of_handing (orderly : Orderly surveyor) {batch : List ResultRecord}
    (hands : surveyor.handing = some (ticket, batch)) : ticket ∈ surveyor.tickets := by
  obtain ⟨job, next, works⟩ := exists_of_handing hands
  exact (Begun.of_orderly orderly works).mem_tickets

/-- A worker that does not hand a batch over goes on without finishing its request. -/
theorem labours_resume (working : Working surveyor) (now : Moment) (wake : Wake)
    (free : surveyor.handing = none) : Labours (surveyor.resume now wake) := by
  have resumed := resumes surveyor now wake
  generalize surveyor.resume now wake = step at resumed ⊢
  cases resumed with
  | settles ticket job activity works =>
      obtain ⟨isScanning, position, follows⟩ := working ticket job activity works
      apply labours_settle surveyor now.millis ticket job
        (Survey.resume_stepFrom now.timestamp (surveyor.isCancelled ticket) wake follows)
      have isOpen := Survey.isOpen_of_follows follows
      have stays : activity.woken wake position = position := by
        cases activity with
        | askingUnlessCancelled wait next => rfl
        | probing phase scan pool next => rfl
        | asking wait next =>
            have notPublish : ¬wait.isPublish := by
              cases wait with
              | publish batch => simp [handing, works] at free
              | resolve name => simp [Wait.isPublish]
              | reverse ip => simp [Wait.isPublish]
              | find target locales => simp [Wait.isPublish]
            cases wake with
            | answered answers => exact Survey.answered_of_not_isPublish notPublish (answers wait)
            | happened happening => rfl
      rw [stays]
      rintro rfl
      contradiction
  | rests => exact ⟨working, unfinished_nil⟩

/-- A request that has ended is no longer pending. -/
theorem not_mem_tickets_settle (begun : Begun surveyor ticket) (now : Nat) (job : Job)
    {step : List Event × Status} {ending : Ending} (ended : step.2 = .ended ending) :
    ticket ∉ (surveyor.settle now ticket job step).1.tickets := by
  rcases step with ⟨events, status⟩
  cases ended
  change ticket ∉ (surveyor.finish now ticket job ending).tickets
  rw [(alike_finish surveyor now ticket job ending).tickets, tickets_released begun ending]
  exact begun.not_mem_queue

/-- What a worker does that is told what became of its batch. -/
theorem exists_step_of_handing (orderly : Orderly surveyor) (working : Working surveyor)
    {batch : List ResultRecord} (hands : surveyor.handing = some (ticket, batch)) (now : Moment)
    (answers : (wait : Wait) → wait.Answer) :
    ∃ (job : Job) (isScanning : Bool) (position : Position) (step : List Event × Status),
      Begun surveyor ticket ∧
      surveyor.resume now (.answered answers) = surveyor.settle now.millis ticket job step ∧
      StepFrom isScanning (position.answered (.publish batch) (answers (.publish batch))) step := by
  obtain ⟨job, next, works⟩ := exists_of_handing hands
  obtain ⟨isScanning, position, follows⟩ := working _ _ _ works
  refine ⟨job, isScanning, position, _, Begun.of_orderly orderly works, ?_,
    Survey.resume_stepFrom now.timestamp (surveyor.isCancelled ticket) (.answered answers) follows⟩
  exact resume_of_running works now _

/-- A request finishes when its batch is taken. -/
theorem resume_taken (orderly : Orderly surveyor) (working : Working surveyor)
    {batch : List ResultRecord} (hands : surveyor.handing = some (ticket, batch)) (now : Moment)
    {answers : (wait : Wait) → wait.Answer} (taken : answers (.publish batch) = .ok ()) :
    Working (surveyor.resume now (.answered answers)).1 ∧
      finished (surveyor.resume now (.answered answers)).2 = [ticket] ∧
      kindsOf (some ticket) (surveyor.resume now (.answered answers)).2 = [.finished] ∧
      ticket ∉ (surveyor.resume now (.answered answers)).1.tickets := by
  obtain ⟨job, isScanning, position, step, begun, resumed, stepFrom⟩ :=
    exists_step_of_handing orderly working hands now answers
  rw [taken] at stepFrom
  obtain ⟨ending, ended, kinds⟩ := stepFrom.finished
  rw [resumed]
  refine ⟨working_settle surveyor now.millis ticket job stepFrom, ?_, ?_,
    not_mem_tickets_settle begun now.millis job ended⟩
  · obtain ⟨event, alone, isFinished⟩ := List.map_eq_singleton_iff.mp kinds
    rw [signals_settle, alone]
    simp [finished, signal, isFinished]
  · rw [signals_settle, kindsOf_map_signal_self, kinds]

/-- A request whose batch is refused ends without having finished. -/
theorem resume_refused (orderly : Orderly surveyor) (working : Working surveyor)
    {batch : List ResultRecord} (hands : surveyor.handing = some (ticket, batch)) (now : Moment)
    {answers : (wait : Wait) → wait.Answer} {reason : String}
    (refused : answers (.publish batch) = .error reason) :
    Labours (surveyor.resume now (.answered answers)) ∧
      ticket ∉ (surveyor.resume now (.answered answers)).1.tickets := by
  obtain ⟨job, isScanning, position, step, begun, resumed, stepFrom⟩ :=
    exists_step_of_handing orderly working hands now answers
  rw [refused] at stepFrom
  obtain ⟨ending, ended, -⟩ := stepFrom.exists_ending rfl
  rw [resumed]
  constructor
  · exact labours_settle surveyor now.millis ticket job stepFrom (by simp [Position.answered])
  · exact not_mem_tickets_settle begun now.millis job ended

/-! ## Requests that are gone -/

/-- A request that is no longer pending never is again, and is told of no more. -/
theorem Keeps.gone {before : Surveyor} {step : Surveyor × List Signal} (keeps : Keeps before step)
    (known : ticket < before.accepted) (left : ticket ∉ before.tickets) :
    ticket ∉ step.1.tickets ∧ kindsOf (some ticket) step.2 = [] := by
  -- The position of a request in the protocol tells where it stands, so it is enough to
  -- look at one that was told nothing but that it was cancelled.
  have leads : Position.tell true .waiting .cancelled = some (.ended .cancelled) := rfl
  have course : Course before [before.signal (some ticket) before.standing .cancelled] ticket
      true :=
    { accepted := known
      mode := by
        intro entry member same
        exact absurd (same ▸ List.mem_map_of_mem member) left
      position := by
        refine ⟨.ended .cancelled, ?_, left⟩
        rw [kindsOf_signal_self]
        exact Position.reach_tell leads (Language.nil_mem_kstar _) }
  obtain ⟨position, reach, stands⟩ := (keeps.course _ _ _ course).position
  rw [kindsOf_append, kindsOf_signal_self] at reach
  obtain ⟨⟨ending, rfl⟩, silent⟩ := Position.of_cancelled reach
  exact ⟨stands, silent⟩

end FieldSurvey.Surveyor
