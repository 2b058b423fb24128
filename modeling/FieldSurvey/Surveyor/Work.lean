import FieldSurvey.Surveyor.Basic

/-!
# The worker

The worker takes the next request from the queue and carries it out, one wait
after the other.  When it begins a request it tells all others how many are ahead
of them.  When a periodic scan has ended and no other one is pending, the timer
is armed for the next one.  A worker that is to stop cancels what is left in the
queue.
-/

namespace FieldSurvey.Surveyor

open Survey (Activity Ending Event Status Wake advance)

/-- Counts the ending of a request. -/
def Stats.count (ending : Ending) (stats : Stats) : Stats :=
  match ending with
  | .finished _ => stats.countFinished
  | .cancelled => stats.countCancelled
  | .failed _ => stats.countFailed

/-- The surveyor after a request has ended. -/
def close (ticket : Nat) (ending : Ending) (surveyor : Surveyor) : Surveyor :=
  { surveyor with
    pending := surveyor.pending.filter fun entry => entry.ticket != ticket
    stats := surveyor.stats.count ending }

/-- The surveyor after its worker has finished a request. -/
def finish (now : Nat) (ticket : Nat) (job : Job) (ending : Ending) (surveyor : Surveyor) :
    Surveyor :=
  let surveyor := { surveyor.close ticket ending with worker := .idle }
  if job.isScan && !surveyor.hasScan then surveyor.arm now job.idleMillis else surveyor

/-- The surveyor after a run has advanced. -/
def settle (now : Nat) (ticket : Nat) (job : Job) (step : List Event × Status)
    (surveyor : Surveyor) : Surveyor × List Signal :=
  let signals := step.1.map (surveyor.signal (some ticket) job)
  match step.2 with
  | .waiting activity => ({ surveyor with worker := .running ticket job activity }, signals)
  | .ended ending => (surveyor.finish now ticket job ending, signals)

section

variable (surveyor : Surveyor) (now ticket : Nat) (job : Job)

@[simp]
theorem pending_finish (ending : Ending) :
    (surveyor.finish now ticket job ending).pending =
      surveyor.pending.filter fun entry => entry.ticket != ticket := by
  unfold finish
  dsimp only
  split <;> rfl

@[simp]
theorem standing_finish (ending : Ending) :
    (surveyor.finish now ticket job ending).standing = surveyor.standing := by
  unfold finish
  dsimp only
  split <;> rfl

@[simp]
theorem isStopping_finish (ending : Ending) :
    (surveyor.finish now ticket job ending).isStopping = surveyor.isStopping := by
  unfold finish
  dsimp only
  split <;> rfl

@[simp]
theorem accepted_finish (ending : Ending) :
    (surveyor.finish now ticket job ending).accepted = surveyor.accepted := by
  unfold finish
  dsimp only
  split <;> rfl

@[simp]
theorem discoverer_finish (ending : Ending) :
    (surveyor.finish now ticket job ending).discoverer = surveyor.discoverer := by
  unfold finish
  dsimp only
  split <;> rfl

variable (step : List Event × Status)

@[simp]
theorem standing_settle :
    (surveyor.settle now ticket job step).1.standing = surveyor.standing := by
  rcases step with ⟨events, activity | ending⟩
  · rfl
  · exact standing_finish surveyor now ticket job ending

@[simp]
theorem isStopping_settle :
    (surveyor.settle now ticket job step).1.isStopping = surveyor.isStopping := by
  rcases step with ⟨events, activity | ending⟩
  · rfl
  · exact isStopping_finish surveyor now ticket job ending

@[simp]
theorem accepted_settle :
    (surveyor.settle now ticket job step).1.accepted = surveyor.accepted := by
  rcases step with ⟨events, activity | ending⟩
  · rfl
  · exact accepted_finish surveyor now ticket job ending

@[simp]
theorem discoverer_settle :
    (surveyor.settle now ticket job step).1.discoverer = surveyor.discoverer := by
  rcases step with ⟨events, activity | ending⟩
  · rfl
  · exact discoverer_finish surveyor now ticket job ending

@[simp]
theorem signals_settle : (surveyor.settle now ticket job step).2 =
    step.1.map (surveyor.signal (some ticket) job) := by
  rcases step with ⟨events, activity | ending⟩ <;> rfl

end

/-- The survey that carries out a request. -/
def survey (surveyor : Surveyor) (job : Job) : Survey where
  discoverer := surveyor.discoverer
  plan := job.plan
  isContainer := surveyor.isContainer
  reportInterval := surveyor.reportInterval

/-- How many requests are ahead of those that wait behind a ticket.  A request
that was cancelled is not told. -/
def positions (ticket : Nat) (surveyor : Surveyor) : List Signal :=
  (surveyor.pending.filter fun entry => entry.ticket != ticket).zipIdx.filterMap
    fun (entry, index) =>
      if entry.job.isCancelled then none
      else some (surveyor.signal (some entry.ticket) entry.job (.pending (index + 1)))

/-- Begins the request of a ticket. -/
def begin (now : Moment) (ticket : Nat) (job : Job) (surveyor : Surveyor) :
    Surveyor × List Signal :=
  let told := surveyor.positions ticket
  let (surveyor, signals) := surveyor.settle now.millis ticket job
    (advance now.timestamp job.isCancelled (surveyor.survey job).run)
  (surveyor, told ++ signals)

/-- Cancels the requests of the given tickets, which have not begun. -/
def drain : List Nat → Surveyor → Surveyor × List Signal
  | [], surveyor => (surveyor, [])
  | ticket :: rest, surveyor =>
    match surveyor.job? ticket with
    | none => drain rest surveyor
    | some job =>
      let told := surveyor.signal (some ticket) job .cancelled
      let (surveyor, signals) := drain rest (surveyor.close ticket .cancelled)
      (surveyor, told :: signals)

/-- The worker stops. -/
def retire (surveyor : Surveyor) : Surveyor × List Signal :=
  let queue := surveyor.queue
  drain queue { surveyor with queue := [], worker := .stopped }

/-- An idle worker takes the next request, or stops. -/
def take (now : Moment) (surveyor : Surveyor) : Surveyor × List Signal :=
  match surveyor.worker with
  | .idle =>
    if surveyor.isStopping then surveyor.retire
    else
      match surveyor.queue with
      | [] => (surveyor, [])
      | ticket :: rest =>
        let surveyor := { surveyor with queue := rest }
        match surveyor.job? ticket with
        | none => (surveyor, [])
        | some job => surveyor.begin now ticket job
  | _ => (surveyor, [])

/-- Wakes a worker that waits. -/
def resume (now : Moment) (wake : Wake) (surveyor : Surveyor) : Surveyor × List Signal :=
  match surveyor.worker with
  | .running ticket job activity =>
    surveyor.settle now.millis ticket job
      (activity.resume now.timestamp (surveyor.isCancelled ticket) wake)
  | _ => (surveyor, [])

@[simp]
theorem resume_of_running {surveyor : Surveyor} {ticket : Nat} {job : Job} {activity : Activity}
    (works : surveyor.worker = .running ticket job activity) (now : Moment) (wake : Wake) :
    surveyor.resume now wake = surveyor.settle now.millis ticket job
      (activity.resume now.timestamp (surveyor.isCancelled ticket) wake) := by
  rw [resume, works]

end FieldSurvey.Surveyor
