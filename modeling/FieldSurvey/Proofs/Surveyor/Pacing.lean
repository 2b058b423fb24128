import FieldSurvey.Proofs.Surveyor.Requests

/-!
# The pace of periodic scans

As long as a standing request is to be submitted periodically there is always a scan to
come: the timer is armed, or a scan waits or runs, and the worker arms the timer once the
last scan has left.  A scan leaves in no other way than through the worker, who knows of
every request that it carries out whether it is a scan.
-/

namespace FieldSurvey.Surveyor

open Survey (Event Status Wake)

variable {surveyor : Surveyor} {ticket : Nat} {job : Job}

/-- A scan is to come: the timer is going to fire, or a scan is still pending. -/
def ScanToCome (surveyor : Surveyor) : Prop :=
  surveyor.timer.isArmed ∨ surveyor.hasScan

/-- Whether the pending request of a ticket is a scan can be told from a job. -/
def Knows (surveyor : Surveyor) (ticket : Nat) (job : Job) : Prop :=
  ∀ entry ∈ surveyor.pending, entry.ticket = ticket → entry.job.isScan = job.isScan

/-- A surveyor that can keep its pace: its timer can be armed until it is stopped, and its
worker knows a scan for a scan. -/
structure Attuned (surveyor : Surveyor) : Prop where
  timer : surveyor.isStopping = false → surveyor.timer.isShutDown = false
  worker : ∀ ticket job activity, surveyor.worker = .running ticket job activity →
    surveyor.Knows ticket job

/-- A surveyor that keeps its pace. -/
structure Paced (surveyor : Surveyor) : Prop extends Attuned surveyor where
  toCome : surveyor.isStopping = false → surveyor.standing.plan.mode ≠ .off →
    surveyor.ScanToCome

/-! ## Arming the timer -/

theorem Attuned.arm (attuned : Attuned surveyor) (now delay : Nat) :
    Paced (surveyor.arm now delay) where
  timer isOpen := by
    rw [Surveyor.arm, Timer.isShutDown_arm]
    exact attuned.timer isOpen
  worker := attuned.worker
  toCome isOpen _ := Or.inl (Timer.isArmed_arm (attuned.timer isOpen) now delay)

theorem paced_start (discoverer : Settings.Discoverer)
    (capacity initialDelay reportInterval : Nat) (isContainer : Bool) (now : Nat) :
    Paced (start discoverer capacity initialDelay reportInterval isContainer now) := by
  apply Attuned.arm
  constructor
  · intro _
    rfl
  · intro ticket job activity works
    contradiction

/-! ## Callers -/

theorem hasScan_iff : surveyor.hasScan ↔ ∃ entry ∈ surveyor.pending, entry.job.isScan := by
  simp [hasScan]

/-- Who is cancelled stays pending, and stays what it is. -/
theorem isScan_of_mem_cancelWhere {test : Job → Bool} {entry : Entry}
    (member : entry ∈ (surveyor.cancelWhere test).pending) :
    ∃ former ∈ surveyor.pending, former.ticket = entry.ticket ∧
      former.job.isScan = entry.job.isScan := by
  obtain ⟨former, inPending, same⟩ := List.mem_map.mp member
  refine ⟨former, inPending, ?_⟩
  by_cases picked : test former.job
  · simp only [picked, if_true] at same
    subst same
    exact ⟨rfl, rfl⟩
  · simp only [picked] at same
    subst same
    exact ⟨rfl, rfl⟩

theorem Knows.cancelWhere (knows : surveyor.Knows ticket job) (test : Job → Bool) :
    (surveyor.cancelWhere test).Knows ticket job := by
  intro entry member same
  obtain ⟨former, inPending, sameTicket, sameKind⟩ := isScan_of_mem_cancelWhere member
  rw [← sameKind]
  exact knows former inPending (sameTicket.trans same)

theorem Attuned.cancelWhere (attuned : Attuned surveyor) (test : Job → Bool) :
    Attuned (surveyor.cancelWhere test) where
  timer := attuned.timer
  worker ticket job activity works := (attuned.worker ticket job activity works).cancelWhere test

theorem Paced.cancelWhere (paced : Paced surveyor) (test : Job → Bool) :
    Paced (surveyor.cancelWhere test) where
  toAttuned := paced.toAttuned.cancelWhere test
  toCome isOpen isOn := by
    rw [ScanToCome, hasScan_cancelWhere]
    exact paced.toCome isOpen isOn

theorem Paced.configure (paced : Paced surveyor) (mode : Model.Mode) (config : Model.ScanConfig)
    (surroundings : Surroundings) (now : Nat) :
    Paced (surveyor.configure mode config surroundings now) := by
  unfold Surveyor.configure
  dsimp only
  split
  case isTrue pending =>
    exact
      { timer := paced.timer
        worker := paced.worker
        toCome := fun _ _ => Or.inr pending }
  case isFalse none =>
    exact
      { timer := fun isOpen => by
          rw [Timer.isShutDown_ensureArmed]
          exact paced.timer isOpen
        worker := paced.worker
        toCome := fun isOpen _ =>
          Or.inl (Timer.isArmed_ensureArmed (paced.timer isOpen) now _) }

theorem Attuned.stop (attuned : Attuned surveyor) : Paced surveyor.stop where
  timer isOpen := by contradiction
  worker := (attuned.cancelWhere fun _ => true).worker
  toCome isOpen := by contradiction

/-! ## Submitting -/

/-- The ticket of a request that is accepted is not that of the one that runs. -/
theorem Attuned.accept (attuned : Attuned surveyor) (orderly : Orderly surveyor) (job : Job) :
    Attuned (surveyor.accept job) where
  timer := attuned.timer
  worker := by
    intro ticket running activity works entry member same
    rcases List.mem_append.mp member with old | new
    · exact attuned.worker ticket running activity works entry old same
    · have isRunning : ticket ∈ surveyor.tickets := by
        have sameWorker : surveyor.worker = .running ticket running activity := works
        rw [orderly.tickets_eq, Surveyor.running, sameWorker]
        exact List.mem_append_left _ (List.mem_singleton_self ticket)
      have below := orderly.below ticket isRunning
      rw [List.mem_singleton.mp new] at same
      exact absurd same (Nat.ne_of_gt below)

theorem Paced.submit (paced : Paced surveyor) (orderly : Orderly surveyor) (job : Job) :
    Paced (surveyor.submit job).2.1 := by
  unfold Surveyor.submit
  split
  · exact ⟨⟨paced.timer, paced.worker⟩, paced.toCome⟩
  · refine ⟨paced.toAttuned.accept orderly job, ?_⟩
    intro isOpen isOn
    rcases paced.toCome isOpen isOn with armed | pending
    · exact Or.inl armed
    · right
      simp [hasScan_accept, pending]

/-- A firing brings on the next scan: a scan is accepted, or the timer is armed again. -/
theorem Attuned.schedule (attuned : Attuned surveyor) (orderly : Orderly surveyor) (now : Nat) :
    Paced (surveyor.schedule now).1 := by
  have cancelled := attuned.cancelWhere Job.isScan
  have stillOrderly := (alike_cancelWhere Job.isScan surveyor).orderly orderly
  unfold Surveyor.schedule
  dsimp only
  split
  case isTrue off => exact ⟨cancelled, fun _ isOn => absurd off isOn⟩
  case isFalse =>
    unfold Surveyor.submit
    cases (surveyor.cancelWhere Job.isScan).refusal? with
    | some rejection =>
        have rejected : Attuned (surveyor.cancelWhere Job.isScan).reject :=
          ⟨cancelled.timer, cancelled.worker⟩
        exact rejected.arm now _
    | none =>
        refine ⟨cancelled.accept stillOrderly _, fun _ _ => Or.inr ?_⟩
        rw [hasScan_accept]
        exact Bool.or_true _

theorem Paced.fire (paced : Paced surveyor) (orderly : Orderly surveyor) (now : Nat) :
    Paced (surveyor.fire now).1 := by
  have fired : Attuned { surveyor with timer := surveyor.timer.fired } :=
    ⟨paced.timer, paced.worker⟩
  have same : Alike surveyor { surveyor with timer := surveyor.timer.fired } :=
    ⟨rfl, rfl, rfl, rfl, rfl⟩
  unfold Surveyor.fire
  split
  · dsimp only
    split
    case isTrue stopping =>
      exact ⟨fired, fun isOpen => absurd stopping (Bool.eq_false_iff.mp isOpen)⟩
    case isFalse => exact fired.schedule (same.orderly orderly) now
  · exact paced

/-! ## The worker -/

/-- A request that leaves takes no scan with it unless it is one itself. -/
theorem hasScan_close (knows : surveyor.Knows ticket job) (other : job.isScan = false)
    (ending : Survey.Ending) (pending : surveyor.hasScan) :
    (surveyor.close ticket ending).hasScan := by
  obtain ⟨entry, member, isScan⟩ := hasScan_iff.mp pending
  refine hasScan_iff.mpr ⟨entry, List.mem_filter.mpr ⟨member, ?_⟩, isScan⟩
  rw [bne_iff_ne]
  intro same
  have isOther := knows entry member same
  rw [other, isScan] at isOther
  contradiction

theorem Paced.finish (paced : Paced surveyor) (knows : surveyor.Knows ticket job) (now : Nat)
    (ending : Survey.Ending) : Paced (surveyor.finish now ticket job ending) := by
  have released : Attuned (surveyor.released ticket ending) := by
    constructor
    · exact paced.timer
    · intro ticket job activity works
      contradiction
  rw [finish_eq]
  split
  case isTrue => exact released.arm now _
  case isFalse stays =>
    refine ⟨released, fun isOpen isOn => ?_⟩
    by_cases scan : job.isScan
    · right
      simpa [scan, hasScan, close] using stays
    · rcases paced.toCome isOpen isOn with armed | pending
      · exact Or.inl armed
      · exact Or.inr (hasScan_close knows (Bool.eq_false_iff.mpr scan) ending pending)

theorem Paced.settle (paced : Paced surveyor) (knows : surveyor.Knows ticket job) (now : Nat)
    (step : List Event × Status) : Paced (surveyor.settle now ticket job step).1 := by
  rcases step with ⟨events, activity | ending⟩
  · refine ⟨⟨paced.timer, ?_⟩, paced.toCome⟩
    intro other twin sameActivity works
    obtain ⟨rfl, rfl, -⟩ := Worker.running.inj works
    exact knows
  · exact paced.finish knows now ending

/-- The request that is found under a ticket is the only one there. -/
theorem knows_of_job? (orderly : Orderly surveyor) (found : surveyor.job? ticket = some job) :
    surveyor.Knows ticket job := by
  obtain ⟨entry, member, hasTicket, rfl⟩ := mem_of_job? found
  have nodup : (surveyor.pending.map Entry.ticket).Nodup :=
    orderly.increasing.imp fun less => Nat.ne_of_lt less
  intro other otherMember same
  rw [List.inj_on_of_nodup_map nodup otherMember member (same.trans hasTicket.symm)]

/-- Of a surveyor whose queue is drained only the requests and their counts change. -/
theorem exists_drain (left : List Nat) (surveyor : Surveyor) :
    ∃ pending stats, (drain left surveyor).1 = { surveyor with pending, stats } := by
  induction left generalizing surveyor with
  | nil => exact ⟨surveyor.pending, surveyor.stats, rfl⟩
  | cons first rest ih =>
      unfold drain
      split
      · exact ih surveyor
      · exact ih (surveyor.close first .cancelled)

theorem isStopping_drain (left : List Nat) (surveyor : Surveyor) :
    (drain left surveyor).1.isStopping = surveyor.isStopping := by
  obtain ⟨pending, stats, same⟩ := exists_drain left surveyor
  rw [same]

theorem paced_retire (orderly : Orderly surveyor) (idle : surveyor.worker = .idle)
    (stopping : surveyor.isStopping) : Paced surveyor.retire.1 := by
  have stopped : surveyor.retire.1.isStopping = true :=
    (isStopping_drain _ _).trans stopping
  have gone := (drained_retire orderly idle).worker
  constructor
  · constructor
    · intro isOpen
      exact absurd stopped (Bool.eq_false_iff.mp isOpen)
    · intro ticket job activity works
      rw [gone] at works
      contradiction
  · intro isOpen
    exact absurd stopped (Bool.eq_false_iff.mp isOpen)

theorem Paced.take (paced : Paced surveyor) (orderly : Orderly surveyor) (now : Moment) :
    Paced (surveyor.take now).1 := by
  have taken := takes orderly now
  generalize surveyor.take now = step at taken ⊢
  cases taken with
  | busy works => exact paced
  | retires idle stopping => exact paced_retire orderly idle stopping
  | rests idle nothing => exact paced
  | begins ticket rest job idle queued found =>
      have dequeued : Paced { surveyor with queue := rest } :=
        ⟨⟨paced.timer, paced.worker⟩, paced.toCome⟩
      have knows : surveyor.Knows ticket job := knows_of_job? orderly found
      exact dequeued.settle knows now.millis _

theorem Paced.resume (paced : Paced surveyor) (now : Moment) (wake : Wake) :
    Paced (surveyor.resume now wake).1 := by
  have resumed := resumes surveyor now wake
  generalize surveyor.resume now wake = step at resumed ⊢
  cases resumed with
  | settles ticket job activity works =>
      exact paced.settle (paced.worker ticket job activity works) now.millis _
  | rests => exact paced

/-! ## Turns -/

theorem Paced.act (paced : Paced surveyor) (orderly : Orderly surveyor) (turn : Turn) :
    Paced (turn.act surveyor).1 := by
  cases turn with
  | discover request surroundings => exact paced.submit orderly _
  | register request surroundings => exact paced.submit orderly _
  | cancel id => exact paced.cancelWhere (hasId id)
  | configure mode config surroundings now => exact paced.configure mode config surroundings now
  | scan now => exact paced.toAttuned.arm now 0
  | shutDown => exact paced.toAttuned.stop
  | fire now => exact paced.fire orderly now
  | take now => exact paced.take orderly now
  | resume now wake => exact paced.resume now wake

theorem Reachable.orderly (reachable : Reachable surveyor) : Orderly surveyor := by
  induction reachable with
  | start discoverer capacity initialDelay reportInterval isContainer now =>
      exact orderly_start discoverer capacity initialDelay reportInterval isContainer now
  | act turn _ ih => exact (keeps_act ih turn).orderly

theorem Reachable.paced (reachable : Reachable surveyor) : Paced surveyor := by
  induction reachable with
  | start discoverer capacity initialDelay reportInterval isContainer now =>
      exact paced_start discoverer capacity initialDelay reportInterval isContainer now
  | act turn before ih => exact ih.act before.orderly turn

/-- Periodic scans never cease: whatever turns were taken since the start, a firing of the
timer is still to come or a scan is pending, unless the surveyor was stopped or its standing
request is off. -/
theorem scan_to_come (reachable : Reachable surveyor) (isOpen : surveyor.isStopping = false)
    (isOn : surveyor.standing.plan.mode ≠ .off) :
    surveyor.timer.isArmed ∨ surveyor.hasScan :=
  reachable.paced.toCome isOpen isOn

/-- A surveyor whose only place was taken when the timer fired. -/
def crowdedSurveyor : Surveyor :=
  (play [.discover {} {}, .configure .url {} {} 0, .fire 0] smallSurveyor).1

/-- A scan that finds no place is put off, and not forgotten. -/
theorem rejected_scan_to_come :
    Reachable crowdedSurveyor ∧ crowdedSurveyor.isStopping = false ∧
      crowdedSurveyor.standing.plan.mode ≠ .off ∧ crowdedSurveyor.stats.rejected = 1 ∧
      (crowdedSurveyor.timer.isArmed ∨ crowdedSurveyor.hasScan) := by
  have reachable : Reachable crowdedSurveyor := (Reachable.start {} 1 0 0 false 0).play _
  have isOpen : crowdedSurveyor.isStopping = false := rfl
  have isOn : crowdedSurveyor.standing.plan.mode ≠ .off := by decide
  exact ⟨reachable, isOpen, isOn, rfl, scan_to_come reachable isOpen isOn⟩

end FieldSurvey.Surveyor
