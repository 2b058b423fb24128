import FieldSurvey.Proofs.Surveyor.Quiescence

/-!
# Firings

When the timer fires, the scans that are pending are cancelled first, and then the standing
request is submitted.  The new scan takes the place of the old ones if the queue has room for
it.  If it has none the old scans are cancelled for nothing, unless all of them were cancelled
before.
-/

namespace FieldSurvey.Surveyor

variable {surveyor before after : Surveyor} {now : Nat}

/-! ## What a firing comes to -/

/-- The surveyor in the midst of a firing, when the scans that were pending are cancelled. -/
def firing (surveyor : Surveyor) : Surveyor :=
  { surveyor.cancelWhere Job.isScan with timer := surveyor.timer.fired }

/-- What may come of the timer's turn. -/
inductive Fires (surveyor : Surveyor) (now : Nat) : Surveyor → Prop
  | waits (early : surveyor.timer.isDue now = false) : Fires surveyor now surveyor
  | stops (stopping : surveyor.isStopping) (due : surveyor.timer.isDue now) :
    Fires surveyor now { surveyor with timer := surveyor.timer.fired }
  | rests (isOpen : surveyor.isStopping = false) (due : surveyor.timer.isDue now)
    (off : surveyor.standing.plan.mode = .off) : Fires surveyor now surveyor.firing
  | submits (isOpen : surveyor.isStopping = false) (due : surveyor.timer.isDue now)
    (on : surveyor.standing.plan.mode ≠ .off)
    (room : surveyor.queue.length < max surveyor.capacity 1) :
    Fires surveyor now (surveyor.firing.accept surveyor.standing.renew.asScan)
  | retries (isOpen : surveyor.isStopping = false) (due : surveyor.timer.isDue now)
    (on : surveyor.standing.plan.mode ≠ .off)
    (full : max surveyor.capacity 1 ≤ surveyor.queue.length) :
    Fires surveyor now
      (surveyor.firing.reject.arm now surveyor.standing.renew.asScan.idleMillis)

theorem refusal?_firing (surveyor : Surveyor) : surveyor.firing.refusal? = surveyor.refusal? :=
  rfl

/-- What a firing comes to that submits the standing request.  If that is rejected, the timer is
armed anew. -/
def resubmitted (surveyor : Surveyor) (now : Nat) : Surveyor × List Signal :=
  let job := surveyor.standing.renew.asScan
  let step := surveyor.firing.submit job
  let timer := if step.1 = none then step.2.1.timer else step.2.1.timer.arm now job.idleMillis
  ({ step.2.1 with timer }, step.2.2)

theorem fire_eq (surveyor : Surveyor) (now : Nat) :
    surveyor.fire now =
      if surveyor.timer.isDue now then
        if surveyor.isStopping then ({ surveyor with timer := surveyor.timer.fired }, [])
        else if surveyor.standing.plan.mode = .off then (surveyor.firing, [])
        else surveyor.resubmitted now
      else (surveyor, []) := by
  unfold fire schedule
  split
  case isFalse early => rfl
  case isTrue due =>
    dsimp only
    split
    case isTrue stopping => rfl
    case isFalse isOpen =>
      congr 1
      split
      case h_1 after signals submitted =>
        have step : surveyor.firing.submit surveyor.standing.renew.asScan =
            (none, after, signals) := submitted
        rw [resubmitted, step]
        rfl
      case h_2 rejection after signals submitted =>
        have step : surveyor.firing.submit surveyor.standing.renew.asScan =
            (some rejection, after, signals) := submitted
        rw [resubmitted, step]
        rfl

theorem fires (surveyor : Surveyor) (now : Nat) : Fires surveyor now (surveyor.fire now).1 := by
  rw [fire_eq]
  split
  case isFalse early => exact .waits (Bool.eq_false_iff.mpr early)
  case isTrue due =>
    split
    case isTrue stopping => exact .stops stopping due
    case isFalse isOpen =>
      have isOpen := Bool.eq_false_iff.mpr isOpen
      split
      case isTrue off => exact .rests isOpen due off
      case isFalse on =>
        unfold resubmitted submit
        rw [refusal?_firing, refusal?, isOpen, if_neg Bool.false_ne_true]
        by_cases full : max surveyor.capacity 1 ≤ surveyor.queue.length
        · rw [if_pos full]
          exact .retries isOpen due on full
        · rw [if_neg full]
          exact .submits isOpen due on (Nat.not_le.mp full)

/-! ## The timer of a surveyor that is stopping -/

theorem isStopping_fire (surveyor : Surveyor) (now : Nat) :
    (surveyor.fire now).1.isStopping = surveyor.isStopping := by
  have fired := fires surveyor now
  generalize (surveyor.fire now).1 = after at fired ⊢
  cases fired <;> rfl

/-- Only a call to shut down has a surveyor stop. -/
theorem isStopping_act_of_ne (orderly : Orderly surveyor) {turn : Turn}
    (goesOn : turn ≠ .shutDown) : (turn.act surveyor).1.isStopping = surveyor.isStopping := by
  cases turn with
  | discover request surroundings => exact isStopping_submit surveyor _
  | register request surroundings => exact isStopping_submit surveyor _
  | cancel id => rfl
  | configure mode config surroundings now => exact isStopping_configure ..
  | scan now => rfl
  | shutDown => contradiction
  | fire now => exact isStopping_fire surveyor now
  | take now => exact isStopping_take orderly now
  | resume now wake => exact isStopping_resume surveyor now wake

/-- The timer of a surveyor that is stopping was shut down. -/
theorem Reachable.silent (reachable : Reachable surveyor) (stopping : surveyor.isStopping) :
    surveyor.timer.IsSilent := by
  induction reachable with
  | start discoverer capacity initialDelay reportInterval isContainer now => contradiction
  | act turn before ih =>
      by_cases shuts : turn = .shutDown
      · subst shuts
        exact silent_shutDown _
      · rw [isStopping_act_of_ne before.orderly shuts] at stopping
        rw [timer_act before.orderly (ih stopping)]
        exact ih stopping

theorem Reachable.isOpen_of_isDue (reachable : Reachable surveyor)
    (due : surveyor.timer.isDue now) : surveyor.isStopping = false := by
  rw [← Bool.not_eq_true]
  intro stopping
  rw [(reachable.silent stopping).not_isDue] at due
  contradiction

/-! ## All or nothing -/

/-- A step that submits the standing request, in favour of which the scans that were pending
are cancelled. -/
structure Replaces (before after : Surveyor) : Prop where
  pending : after.pending = (before.cancelWhere Job.isScan).pending ++
    [⟨before.accepted, before.standing.renew.asScan⟩]
  queue : after.queue = before.queue ++ [before.accepted]
  rejected : after.stats.rejected = before.stats.rejected

/-- A step in which the standing request is rejected, and which leaves all requests as they
were. -/
structure Declines (before after : Surveyor) : Prop where
  pending : after.pending = before.pending
  queue : after.queue = before.queue
  rejected : after.stats.rejected = before.stats.rejected + 1

/-- Cancelling changes nothing if all that are picked were cancelled before. -/
theorem pending_cancelWhere_eq_iff {test : Job → Bool} :
    (surveyor.cancelWhere test).pending = surveyor.pending ↔
      ∀ entry ∈ surveyor.pending, test entry.job → entry.job.isCancelled := by
  have each : ∀ entry : Entry,
      (if test entry.job then { entry with job := entry.job.cancel } else entry) = entry ↔
        (test entry.job → entry.job.isCancelled) := by
    rintro ⟨ticket, plan, isScan, isCancelled⟩
    by_cases picked : test ⟨plan, isScan, isCancelled⟩ <;> simp [picked, Job.cancel, eq_comm]
  conv_lhs => rw [cancelWhere, ← List.map_id surveyor.pending]
  simp only [List.map_map, List.map_inj_left]
  exact forall₂_congr fun entry _ => each entry

/-- A firing that submits the standing request is all or nothing, either accepted in favour of
which the pending scans are cancelled or rejected without any change, unless the queue is full
while a scan is pending that was not cancelled. -/
theorem fire_all_or_nothing_iff (reachable : Reachable surveyor)
    (due : surveyor.timer.isDue now) (on : surveyor.standing.plan.mode ≠ .off) :
    (Replaces surveyor (surveyor.fire now).1 ∨ Declines surveyor (surveyor.fire now).1) ↔
      (surveyor.queue.length < max surveyor.capacity 1 ∨
        ∀ entry ∈ surveyor.pending, entry.job.isScan → entry.job.isCancelled) := by
  have fired := fires surveyor now
  generalize (surveyor.fire now).1 = after at fired ⊢
  cases fired with
  | waits early => rw [early] at due; contradiction
  | stops stopping _ =>
      rw [reachable.isOpen_of_isDue due] at stopping
      contradiction
  | rests _ _ off => exact absurd off on
  | submits _ _ _ room => exact iff_of_true (Or.inl ⟨rfl, rfl, rfl⟩) (Or.inl room)
  | retries _ _ _ full =>
      have declines : Declines surveyor
          (surveyor.firing.reject.arm now surveyor.standing.renew.asScan.idleMillis) ↔
            (surveyor.cancelWhere Job.isScan).pending = surveyor.pending :=
        ⟨Declines.pending, fun same => ⟨same, rfl, rfl⟩⟩
      rw [declines, pending_cancelWhere_eq_iff, or_iff_right, or_iff_right full.not_gt]
      intro replaces
      have rejected : surveyor.stats.rejected + 1 = surveyor.stats.rejected := replaces.rejected
      omega

/-- A surveyor with room for two requests, in which a scan waits and another one is due. -/
def roomySurveyor : Surveyor :=
  (play [.configure .url {} {} 0, .fire 0, .scan 0] (start {} 2 0 0 false 0)).1

/-- As long as there is room a firing is all or nothing, also while a scan waits. -/
theorem roomy_firing_all_or_nothing :
    Reachable roomySurveyor ∧ roomySurveyor.timer.isDue 0 ∧
      roomySurveyor.standing.plan.mode ≠ .off ∧ roomySurveyor.hasScan ∧
      (Replaces roomySurveyor (roomySurveyor.fire 0).1 ∨
        Declines roomySurveyor (roomySurveyor.fire 0).1) := by
  have reachable : Reachable roomySurveyor := (Reachable.start {} 2 0 0 false 0).play _
  have due : roomySurveyor.timer.isDue 0 := by decide
  have on : roomySurveyor.standing.plan.mode ≠ .off := by decide
  have room : roomySurveyor.queue.length < max roomySurveyor.capacity 1 := by decide
  exact ⟨reachable, due, on, rfl, (fire_all_or_nothing_iff reachable due on).mpr (Or.inl room)⟩

/-- A surveyor whose only place is taken by a scan that waits for another request to end, while
the next scan is due. -/
def fullSurveyor : Surveyor :=
  (play [.configure .url {} {} 0, .discover {} {}, .take ⟨0, .epoch⟩, .fire 0, .scan 0]
    smallSurveyor).1

/-- A firing that finds the queue full of the scan that it is to replace cancels that scan, and
its own is rejected. -/
theorem full_firing_neither_all_nor_nothing :
    Reachable fullSurveyor ∧ fullSurveyor.timer.isDue 0 ∧
      fullSurveyor.standing.plan.mode ≠ .off ∧
      (fullSurveyor.fire 0).1.stats.rejected = 1 ∧
      fullSurveyor.isCancelled 1 = false ∧ (fullSurveyor.fire 0).1.isCancelled 1 = true ∧
      ¬(Replaces fullSurveyor (fullSurveyor.fire 0).1 ∨
        Declines fullSurveyor (fullSurveyor.fire 0).1) := by
  have reachable : Reachable fullSurveyor := (Reachable.start {} 1 0 0 false 0).play _
  have on : fullSurveyor.standing.plan.mode ≠ .off := by decide
  have rejected : (fullSurveyor.fire 0).1.stats.rejected = 1 := rfl
  have wasLive : fullSurveyor.isCancelled 1 = false := rfl
  have isCancelled : (fullSurveyor.fire 0).1.isCancelled 1 = true := rfl
  refine ⟨reachable, rfl, on, rejected, wasLive, isCancelled, ?_⟩
  rintro (replaces | declines)
  · have none : (fullSurveyor.fire 0).1.stats.rejected = 0 := replaces.rejected
    rw [rejected] at none
    contradiction
  · have same : (fullSurveyor.fire 0).1.isCancelled 1 = fullSurveyor.isCancelled 1 := by
      rw [Surveyor.isCancelled, job?, declines.pending]
      rfl
    rw [isCancelled, wasLive] at same
    contradiction

end FieldSurvey.Surveyor
