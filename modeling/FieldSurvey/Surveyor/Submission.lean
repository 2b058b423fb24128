import FieldSurvey.Surveyor.Basic

/-!
# Submitting and cancelling requests

A request is accepted as long as the surveyor is not stopping and its queue has
room.  It joins the end of the queue and is told how many are ahead of it.  A
request that is rejected leaves no trace but a count and an event.
-/

namespace FieldSurvey.Surveyor

open Model (Request)

/-- Why a request was rejected. -/
inductive Rejection where
  | closed
  | full
  deriving DecidableEq, Repr

/-- The reason that is reported. -/
def Rejection.reason : Rejection → String
  | closed => "request queue closed"
  | full => "request queue full"

/-- The wording of the rejection of a request. -/
def Rejection.message (rejection : Rejection) (request : Request) : String :=
  s!"Discovery request '{request.idText}' rejected: {rejection.reason}"

/-- Why a request would be rejected now, if it would. -/
def refusal? (surveyor : Surveyor) : Option Rejection :=
  if surveyor.isStopping then some .closed
  else if max surveyor.capacity 1 ≤ surveyor.queue.length then some .full
  else none

/-- The surveyor after a request was rejected. -/
def reject (surveyor : Surveyor) : Surveyor :=
  { surveyor with stats := surveyor.stats.countRejected }

/-- The surveyor after a request was accepted. -/
def accept (job : Job) (surveyor : Surveyor) : Surveyor :=
  { surveyor with
    pending := surveyor.pending ++ [⟨surveyor.accepted, job⟩]
    queue := surveyor.queue ++ [surveyor.accepted]
    stats := surveyor.stats.countSubmitted
    accepted := surveyor.accepted + 1 }

/-- Submits a request that is resolved. -/
def submit (job : Job) (surveyor : Surveyor) : Option Rejection × Surveyor × List Signal :=
  match surveyor.refusal? with
  | some rejection =>
    (some rejection, surveyor.reject, [surveyor.signal none job (.failed rejection.reason)])
  | none =>
    let ahead := surveyor.pending.length
    (none, surveyor.accept job,
      if ahead = 0 then [] else [surveyor.signal (some surveyor.accepted) job (.pending ahead)])

section

variable (surveyor : Surveyor) (job : Job)

@[simp]
theorem standing_reject : surveyor.reject.standing = surveyor.standing :=
  rfl

@[simp]
theorem queue_reject : surveyor.reject.queue = surveyor.queue :=
  rfl

@[simp]
theorem pending_reject : surveyor.reject.pending = surveyor.pending :=
  rfl

@[simp]
theorem worker_reject : surveyor.reject.worker = surveyor.worker :=
  rfl

@[simp]
theorem hasScan_accept : (surveyor.accept job).hasScan = (surveyor.hasScan || job.isScan) := by
  simp [hasScan, accept]

@[simp]
theorem fst_submit : (surveyor.submit job).1 = surveyor.refusal? := by
  unfold submit
  cases surveyor.refusal? <;> rfl

@[simp]
theorem standing_submit : (surveyor.submit job).2.1.standing = surveyor.standing := by
  unfold submit
  split <;> rfl

@[simp]
theorem isStopping_submit : (surveyor.submit job).2.1.isStopping = surveyor.isStopping := by
  unfold submit
  split <;> rfl

@[simp]
theorem timer_submit : (surveyor.submit job).2.1.timer = surveyor.timer := by
  unfold submit
  split <;> rfl

end

/-- Submits a request. -/
def discover (request : Request) (surroundings : Surroundings) (surveyor : Surveyor) :
    Option Rejection × Surveyor × List Signal :=
  surveyor.submit (.ofRequest request surroundings)

/-- Whether a request carries an id. -/
def hasId (id : String) (job : Job) : Bool :=
  job.plan.request.id == some id

/-- Cancels every request of an id, and tells how many there are. -/
def cancel (id : String) (surveyor : Surveyor) : Nat × Surveyor :=
  (surveyor.pending.countP fun entry => hasId id entry.job, surveyor.cancelWhere (hasId id))

/-- Cancels everything, closes the queue and shuts the timer down. -/
def stop (surveyor : Surveyor) : Surveyor :=
  let surveyor := surveyor.cancelWhere fun _ => true
  { surveyor with isStopping := true, timer := surveyor.timer.shutDown }

end FieldSurvey.Surveyor
