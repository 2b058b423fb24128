import FieldSurvey.Proofs.Surveyor.Firing

/-!
# Submissions are all or nothing

A request that is accepted joins both the queue and those that are pending, at the end of
either.  One that is rejected joins neither: the surveyor goes on as if nobody had submitted
it, except that it was counted.
-/

namespace FieldSurvey.Surveyor

open Survey (Ending Event Status Wake)

variable {surveyor : Surveyor} {turn : Turn} {job : Job}

/-- The surveyor that a turn submits its request to.  When the timer fires, the scans that were
pending are cancelled by then. -/
def Turn.receiver : Turn → Surveyor → Surveyor
  | fire _, surveyor => surveyor.firing
  | _, surveyor => surveyor

/-- Why the request that a turn submits is rejected, if it is. -/
def Turn.rejection? (turn : Turn) (surveyor : Surveyor) : Option Rejection :=
  (turn.submission? surveyor).bind fun job => ((turn.receiver surveyor).submit job).1

/-! ## The turns that submit a request -/

section Receiver

variable (turn : Turn) (surveyor : Surveyor)

@[simp]
theorem queue_receiver : (turn.receiver surveyor).queue = surveyor.queue := by
  cases turn <;> rfl

@[simp]
theorem standing_receiver : (turn.receiver surveyor).standing = surveyor.standing := by
  cases turn <;> rfl

@[simp]
theorem worker_receiver : (turn.receiver surveyor).worker = surveyor.worker := by
  cases turn <;> rfl

@[simp]
theorem stats_receiver : (turn.receiver surveyor).stats = surveyor.stats := by
  cases turn <;> rfl

@[simp]
theorem accepted_receiver : (turn.receiver surveyor).accepted = surveyor.accepted := by
  cases turn <;> rfl

@[simp]
theorem signal_receiver (ticket : Option Nat) (job : Job) (event : Event) :
    (turn.receiver surveyor).signal ticket job event = surveyor.signal ticket job event := by
  cases turn <;> rfl

/-- The same requests are pending, although some may be cancelled by now. -/
@[simp]
theorem submitted_receiver : (turn.receiver surveyor).submitted = surveyor.submitted := by
  cases turn with
  | fire now => exact submitted_cancelWhere Job.isScan surveyor
  | _ => rfl

theorem refusal?_receiver : (turn.receiver surveyor).refusal? = surveyor.refusal? := by
  cases turn <;> rfl

end Receiver

theorem refusal?_isSome_iff :
    surveyor.refusal?.isSome ↔
      surveyor.isStopping ∨ max surveyor.capacity 1 ≤ surveyor.queue.length := by
  unfold refusal?
  split
  case isTrue stopping => exact iff_of_true rfl (Or.inl stopping)
  case isFalse isOpen =>
    split
    case isTrue full => exact iff_of_true rfl (Or.inr full)
    case isFalse room => exact iff_of_false Bool.false_ne_true (not_or.mpr ⟨isOpen, room⟩)

theorem rejection?_eq (submits : turn.submission? surveyor = some job) :
    turn.rejection? surveyor = surveyor.refusal? := by
  rw [Turn.rejection?, submits, Option.bind_some, fst_submit, refusal?_receiver]

/-- A turn that submits a request does nothing besides, but set the timer. -/
theorem exists_act_eq_submit (reachable : Reachable surveyor)
    (submits : turn.submission? surveyor = some job) :
    ∃ timer, turn.act surveyor =
      ({ ((turn.receiver surveyor).submit job).2.1 with timer },
        ((turn.receiver surveyor).submit job).2.2) := by
  cases turn with
  | discover request surroundings => cases submits; exact ⟨_, rfl⟩
  | register request surroundings => cases submits; exact ⟨_, rfl⟩
  | fire now =>
      simp only [Turn.submission?, periodic?] at submits
      split at submits
      case isFalse => contradiction
      case isTrue due =>
        split at submits
        case isTrue => contradiction
        case isFalse on =>
          cases submits
          have isOpen := reachable.isOpen_of_isDue due
          rw [Turn.act, fire_eq, if_pos due, isOpen, if_neg Bool.false_ne_true, if_neg on]
          exact ⟨_, rfl⟩
  | _ => contradiction

/-- What is submitted was not cancelled. -/
theorem renew_of_submission? (submits : turn.submission? surveyor = some job) :
    job.renew = job := by
  cases turn with
  | discover request surroundings => cases submits; rfl
  | register request surroundings => cases submits; rfl
  | fire now =>
      simp only [Turn.submission?, periodic?] at submits
      split at submits
      · split at submits
        · contradiction
        · cases submits; rfl
      · contradiction
  | _ => contradiction

/-! ## A rejection leaves no trace -/

theorem reject_submit (surveyor : Surveyor) (job : Job) :
    (surveyor.reject.submit job).2 =
      ((surveyor.submit job).2.1.reject, (surveyor.submit job).2.2) := by
  have same : surveyor.reject.refusal? = surveyor.refusal? := rfl
  unfold submit
  rw [same]
  cases surveyor.refusal? <;> rfl

theorem reject_released (surveyor : Surveyor) (ticket : Nat) (ending : Ending) :
    surveyor.reject.released ticket ending = (surveyor.released ticket ending).reject := by
  cases ending <;> rfl

theorem reject_settle (surveyor : Surveyor) (now ticket : Nat) (job : Job)
    (step : List Event × Status) :
    surveyor.reject.settle now ticket job step =
      ((surveyor.settle now ticket job step).1.reject,
        (surveyor.settle now ticket job step).2) := by
  rcases step with ⟨events, activity | ending⟩
  · rfl
  · have finished : surveyor.reject.finish now ticket job ending =
        (surveyor.finish now ticket job ending).reject := by
      rw [finish_eq, finish_eq, apply_ite reject, reject_released]
      rfl
    simp only [settle, finished]
    rfl

theorem reject_drain (tickets : List Nat) (surveyor : Surveyor) :
    drain tickets surveyor.reject =
      ((drain tickets surveyor).1.reject, (drain tickets surveyor).2) := by
  induction tickets generalizing surveyor with
  | nil => rfl
  | cons first rest ih =>
      have same : surveyor.reject.job? first = surveyor.job? first := rfl
      unfold drain
      rw [same]
      cases surveyor.job? first with
      | none => exact ih surveyor
      | some job =>
          have closed : surveyor.reject.close first .cancelled =
              (surveyor.close first .cancelled).reject := rfl
          simp only [closed, ih]
          rfl

theorem reject_retire (surveyor : Surveyor) :
    surveyor.reject.retire = (surveyor.retire.1.reject, surveyor.retire.2) :=
  reject_drain surveyor.queue { surveyor with queue := [], worker := .stopped }

theorem reject_begin (surveyor : Surveyor) (now : Moment) (ticket : Nat) (job : Job) :
    surveyor.reject.begin now ticket job =
      ((surveyor.begin now ticket job).1.reject, (surveyor.begin now ticket job).2) := by
  have same : surveyor.reject.survey job = surveyor.survey job := rfl
  simp only [Surveyor.begin, same, reject_settle]
  rfl

theorem reject_resubmitted (surveyor : Surveyor) (now : Nat) :
    surveyor.reject.resubmitted now =
      ((surveyor.resubmitted now).1.reject, (surveyor.resubmitted now).2) := by
  have same : surveyor.reject.firing = surveyor.firing.reject := rfl
  have answer : ∀ job, (surveyor.firing.reject.submit job).1 = (surveyor.firing.submit job).1 := by
    intro job
    rw [fst_submit, fst_submit]
    rfl
  simp only [resubmitted, standing_reject, same, reject_submit, answer]
  rfl

theorem reject_fire (surveyor : Surveyor) (now : Nat) :
    surveyor.reject.fire now = ((surveyor.fire now).1.reject, (surveyor.fire now).2) := by
  rw [fire_eq surveyor.reject, reject_resubmitted, fire_eq surveyor]
  change (if surveyor.timer.isDue now then
      if surveyor.isStopping then (reject { surveyor with timer := surveyor.timer.fired }, [])
      else if surveyor.standing.plan.mode = .off then (surveyor.firing.reject, [])
      else ((surveyor.resubmitted now).1.reject, (surveyor.resubmitted now).2)
    else (surveyor.reject, [])) = _
  split
  · split
    · rfl
    · split <;> rfl
  · rfl

theorem reject_take (surveyor : Surveyor) (now : Moment) :
    surveyor.reject.take now = ((surveyor.take now).1.reject, (surveyor.take now).2) := by
  simp only [take, worker_reject, queue_reject, job?, pending_reject]
  cases surveyor.worker with
  | idle =>
      change (if surveyor.isStopping then surveyor.reject.retire else _) = _
      dsimp only
      split
      · exact reject_retire surveyor
      · cases surveyor.queue with
        | nil => rfl
        | cons ticket rest =>
            dsimp only
            cases (surveyor.pending.find? fun entry => entry.ticket == ticket).map Entry.job with
            | none => rfl
            | some job =>
                exact reject_begin { surveyor with queue := rest, worker := .idle } now ticket job
  | running ticket job activity => rfl
  | stopped => rfl

/-- No turn depends on how many requests were rejected. -/
theorem reject_act (turn : Turn) (surveyor : Surveyor) :
    turn.act surveyor.reject = ((turn.act surveyor).1.reject, (turn.act surveyor).2) := by
  cases turn with
  | discover request surroundings => exact reject_submit surveyor _
  | register request surroundings => exact reject_submit surveyor _
  | cancel id => rfl
  | configure mode config surroundings now =>
      rw [Turn.act, Turn.act, configure_eq, configure_eq]
      rfl
  | scan now => rfl
  | shutDown => rfl
  | fire now => exact reject_fire surveyor now
  | take now => exact reject_take surveyor now
  | resume now wake =>
      simp only [Turn.act, resume, worker_reject]
      cases surveyor.worker with
      | running ticket job activity => exact reject_settle _ _ _ _ _
      | idle => rfl
      | stopped => rfl

theorem reject_play (turns : List Turn) (surveyor : Surveyor) :
    play turns surveyor.reject = ((play turns surveyor).1.reject, (play turns surveyor).2) := by
  induction turns generalizing surveyor with
  | nil => rfl
  | cons turn rest ih => simp only [play, reject_act, ih]

/-! ## Accepted or rejected -/

/-- The surveyor that a turn would leave if it did everything but submit its request. -/
def Turn.withoutSubmission (turn : Turn) (surveyor : Surveyor) : Surveyor :=
  { turn.receiver surveyor with timer := (turn.act surveyor).1.timer }

/-- A turn whose request is rejected. -/
structure Rejected (surveyor : Surveyor) (turn : Turn) (job : Job) (rejection : Rejection) :
    Prop where
  /-- the same requests are pending -/
  submitted : (turn.act surveyor).1.submitted = surveyor.submitted
  /-- none of them differs, unless it is a scan that the firing had cancelled before -/
  pending : (turn.act surveyor).1.pending = (turn.receiver surveyor).pending
  queue : (turn.act surveyor).1.queue = surveyor.queue
  standing : (turn.act surveyor).1.standing = surveyor.standing
  worker : (turn.act surveyor).1.worker = surveyor.worker
  /-- only the rejection is counted -/
  stats : (turn.act surveyor).1.stats = surveyor.stats.countRejected
  /-- and told -/
  told : (turn.act surveyor).2 = [surveyor.signal none job (.failed rejection.reason)]
  /-- whatever comes later comes as if nobody had submitted the request -/
  traceless : ∀ later, play later (turn.act surveyor).1 =
    ((play later (turn.withoutSubmission surveyor)).1.reject,
      (play later (turn.withoutSubmission surveyor)).2)
  /-- and no other requests are pending then than those of before and those accepted since -/
  absent : ∀ later, (play later (turn.act surveyor).1).1.submitted.Sublist
    (surveyor.submitted ++ (acceptances later (turn.act surveyor).1).zipIdx surveyor.accepted)

/-- A turn whose request is accepted. -/
structure Accepted (surveyor : Surveyor) (turn : Turn) (job : Job) : Prop where
  /-- its ticket is new -/
  fresh : surveyor.accepted ∉ surveyor.tickets
  /-- it joins the end of those that are pending -/
  submitted : (turn.act surveyor).1.submitted = surveyor.submitted ++ [(job, surveyor.accepted)]
  /-- of which none differs, unless it is a scan that the firing had cancelled before -/
  pending : (turn.act surveyor).1.pending =
    (turn.receiver surveyor).pending ++ [⟨surveyor.accepted, job⟩]
  /-- and the end of the queue -/
  queue : (turn.act surveyor).1.queue = surveyor.queue ++ [surveyor.accepted]
  standing : (turn.act surveyor).1.standing = surveyor.standing
  worker : (turn.act surveyor).1.worker = surveyor.worker
  stats : (turn.act surveyor).1.stats = surveyor.stats.countSubmitted
  /-- it is told how many are in front of it, if there are any -/
  told : (turn.act surveyor).2 =
    if surveyor.pending = [] then []
    else [surveyor.signal (some surveyor.accepted) job (.pending surveyor.pending.length)]

/-- What comes of a turn that submits a request. -/
structure Atomic (surveyor : Surveyor) (turn : Turn) (job : Job) : Prop where
  /-- the request is rejected just if the surveyor is stopping or its queue is full -/
  rejected_iff : (turn.rejection? surveyor).isSome ↔
    surveyor.isStopping ∨ max surveyor.capacity 1 ≤ surveyor.queue.length
  rejected : ∀ rejection, turn.rejection? surveyor = some rejection →
    Rejected surveyor turn job rejection
  accepted : turn.rejection? surveyor = none → Accepted surveyor turn job

theorem length_pending_receiver (turn : Turn) (surveyor : Surveyor) :
    (turn.receiver surveyor).pending.length = surveyor.pending.length := by
  have same := congrArg List.length (submitted_receiver turn surveyor)
  rwa [submitted, submitted, List.length_map, List.length_map] at same

theorem rejected_of_rejection? (reachable : Reachable surveyor)
    (submits : turn.submission? surveyor = some job) {rejection : Rejection}
    (refused : turn.rejection? surveyor = some rejection) :
    Rejected surveyor turn job rejection := by
  obtain ⟨timer, acts⟩ := exists_act_eq_submit reachable submits
  have later := admits_play (reachable.act turn).orderly
  rw [rejection?_eq submits, ← refusal?_receiver turn] at refused
  simp only [submit, refused] at acts
  have traced : (turn.act surveyor).1 = (turn.withoutSubmission surveyor).reject := by
    rw [Turn.withoutSubmission, acts]
    rfl
  have submitted : (turn.act surveyor).1.submitted = surveyor.submitted := by
    rw [traced]
    exact submitted_receiver turn surveyor
  have accepted : (turn.act surveyor).1.accepted = surveyor.accepted := by
    rw [traced]
    exact accepted_receiver turn surveyor
  exact
    { submitted := submitted
      pending := by rw [traced]; rfl
      queue := by rw [traced]; exact queue_receiver turn surveyor
      standing := by rw [traced]; exact standing_receiver turn surveyor
      worker := by rw [traced]; exact worker_receiver turn surveyor
      stats := by rw [traced]; exact congrArg Stats.countRejected (stats_receiver turn surveyor)
      told := by rw [acts, signal_receiver]
      traceless := fun turns => by rw [traced, reject_play]
      absent := fun turns => submitted ▸ accepted ▸ (later turns).submitted }

theorem accepted_of_rejection? (reachable : Reachable surveyor)
    (submits : turn.submission? surveyor = some job)
    (free : turn.rejection? surveyor = none) : Accepted surveyor turn job := by
  obtain ⟨timer, acts⟩ := exists_act_eq_submit reachable submits
  rw [rejection?_eq submits, ← refusal?_receiver turn] at free
  simp only [submit, free] at acts
  have pending : (turn.act surveyor).1.pending =
      (turn.receiver surveyor).pending ++ [⟨surveyor.accepted, job⟩] := by
    rw [acts, ← accepted_receiver turn surveyor]
    rfl
  exact
    { fresh := fun member => Nat.lt_irrefl _ (reachable.orderly.below _ member)
      submitted := by
        rw [submitted, pending, List.map_append, ← submitted_receiver turn surveyor]
        simp [submitted, renew_of_submission? submits]
      pending := pending
      queue := by rw [acts]; simp [accept]
      standing := by rw [acts]; simp [accept]
      worker := by rw [acts]; simp [accept]
      stats := by rw [acts]; simp [accept]
      told := by
        rw [acts]
        simp only [length_pending_receiver, List.length_eq_zero_iff, signal_receiver,
          accepted_receiver] }

/-- Submitting a request is atomic: whoever submits it in whatever state, it is accepted or
rejected as a whole. -/
theorem submission_atomic (reachable : Reachable surveyor)
    (submits : turn.submission? surveyor = some job) : Atomic surveyor turn job where
  rejected_iff := by
    rw [rejection?_eq submits]
    exact refusal?_isSome_iff
  rejected _ := rejected_of_rejection? reachable submits
  accepted := accepted_of_rejection? reachable submits

/-- A surveyor whose only place is taken. -/
def busySurveyor : Surveyor :=
  (play [.discover {} {}] smallSurveyor).1

/-- A second request is rejected by a surveyor with one place, and leaves no trace. -/
theorem busy_surveyor_rejects :
    Reachable busySurveyor ∧
      Turn.submission? (.discover {} {}) busySurveyor = some (.ofRequest {} {}) ∧
      Atomic busySurveyor (.discover {} {}) (.ofRequest {} {}) ∧
      Turn.rejection? (.discover {} {}) busySurveyor = some .full := by
  have reachable : Reachable busySurveyor := (Reachable.start {} 1 0 0 false 0).play _
  exact ⟨reachable, rfl, submission_atomic reachable rfl, rfl⟩

end FieldSurvey.Surveyor
