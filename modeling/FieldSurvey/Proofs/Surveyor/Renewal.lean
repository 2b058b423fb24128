import FieldSurvey.Proofs.Surveyor.Firing

/-!
# Scans are kept up to date

Of the periodic scans that are pending, at most one was not cancelled.  A new one comes about
by a firing only, with the plan of the standing request that was set last, as long as that
request is not off and nobody has told the surveyor to shut down.  Other requests have nothing
to fear from a firing.
-/

namespace FieldSurvey.Surveyor

open Survey (Ending Event Status Wake)

variable {surveyor : Surveyor} {turns : List Turn}

/-! ## The request that was set last -/

/-- The standing request that a turn sets, if it sets one. -/
def Turn.setting? : Turn → Option Job
  | configure mode config surroundings _ =>
    some (.ofRequest { mode := some mode, config := some config } surroundings)
  | _ => none

/-- The standing request that is set last in a sequence of turns, if one is set. -/
def lastSetting? : List Turn → Option Job
  | [] => none
  | turn :: rest => (lastSetting? rest).or turn.setting?

theorem standing_fire (surveyor : Surveyor) (now : Nat) :
    (surveyor.fire now).1.standing = surveyor.standing := by
  have fired := fires surveyor now
  generalize (surveyor.fire now).1 = after at fired ⊢
  cases fired <;> rfl

theorem standing_take (orderly : Orderly surveyor) (now : Moment) :
    (surveyor.take now).1.standing = surveyor.standing := by
  have taken := takes orderly now
  generalize surveyor.take now = step at taken ⊢
  cases taken with
  | busy works => rfl
  | retires idle stopping =>
      obtain ⟨pending, stats, same⟩ :=
        exists_drain surveyor.queue { surveyor with queue := [], worker := .stopped }
      rw [retire, same]
  | rests idle nothing => rfl
  | begins ticket rest job idle queued found => exact standing_settle _ _ _ _ _

theorem standing_resume (surveyor : Surveyor) (now : Moment) (wake : Wake) :
    (surveyor.resume now wake).1.standing = surveyor.standing := by
  have resumed := resumes surveyor now wake
  generalize surveyor.resume now wake = step at resumed ⊢
  cases resumed with
  | settles ticket job activity works => exact standing_settle _ _ _ _ _
  | rests => rfl

theorem standing_act (orderly : Orderly surveyor) (turn : Turn) :
    (turn.act surveyor).1.standing = turn.setting?.getD surveyor.standing := by
  cases turn with
  | discover request surroundings => exact standing_submit surveyor _
  | register request surroundings => exact standing_submit surveyor _
  | cancel id => rfl
  | configure mode config surroundings now => exact standing_configure ..
  | scan now => rfl
  | shutDown => rfl
  | fire now => exact standing_fire surveyor now
  | take now => exact standing_take orderly now
  | resume now wake => exact standing_resume surveyor now wake

theorem standing_play (orderly : Orderly surveyor) (turns : List Turn) :
    (play turns surveyor).1.standing = (lastSetting? turns).getD surveyor.standing := by
  induction turns generalizing surveyor with
  | nil => rfl
  | cons turn rest ih =>
      have later := ih (keeps_act orderly turn).orderly
      rw [standing_act orderly] at later
      rw [play, lastSetting?, later]
      cases lastSetting? rest <;> rfl

/-! ## Scans that were not cancelled -/

/-- Whether a request is a scan that was not cancelled. -/
def Entry.isLive (entry : Entry) : Bool :=
  entry.job.isScan && !entry.job.isCancelled

/-- How many of the scans that are pending were not cancelled. -/
def liveScans (surveyor : Surveyor) : Nat :=
  surveyor.pending.countP Entry.isLive

theorem liveScans_cancelWhere_le (test : Job → Bool) (surveyor : Surveyor) :
    (surveyor.cancelWhere test).liveScans ≤ surveyor.liveScans := by
  rw [liveScans, cancelWhere, List.countP_map]
  apply List.countP_mono_left
  intro entry _ live
  by_cases picked : test entry.job
  · simp [picked, Entry.isLive, Job.cancel] at live
  · simpa [picked] using live

/-- Once the scans are cancelled none of them is live. -/
theorem liveScans_firing (surveyor : Surveyor) : surveyor.firing.liveScans = 0 := by
  simp only [liveScans, firing, cancelWhere, List.countP_map, List.countP_eq_zero]
  intro entry _
  by_cases scan : entry.job.isScan <;> simp [scan, Entry.isLive, Job.cancel]

theorem liveScans_accept (surveyor : Surveyor) (job : Job) :
    (surveyor.accept job).liveScans =
      surveyor.liveScans + if job.isScan && !job.isCancelled then 1 else 0 := by
  simp [liveScans, accept, Entry.isLive]

theorem liveScans_submit (surveyor : Surveyor) {job : Job} (other : job.isScan = false) :
    (surveyor.submit job).2.1.liveScans = surveyor.liveScans := by
  unfold submit
  split
  · rfl
  · dsimp only
    rw [liveScans_accept, other]
    rfl

theorem liveScans_fire_le (single : surveyor.liveScans ≤ 1) (now : Nat) :
    (surveyor.fire now).1.liveScans ≤ 1 := by
  have fired := fires surveyor now
  generalize (surveyor.fire now).1 = after at fired ⊢
  cases fired with
  | waits => exact single
  | stops => exact single
  | rests => exact (liveScans_firing surveyor).trans_le (Nat.zero_le 1)
  | submits =>
      rw [liveScans_accept, liveScans_firing]
      exact Nat.le_refl 1
  | retries => exact (liveScans_firing surveyor).trans_le (Nat.zero_le 1)

/-- Of the pending requests the worker at most lets some go. -/
theorem sublist_settle (surveyor : Surveyor) (now ticket : Nat) (job : Job)
    (step : List Event × Status) :
    (surveyor.settle now ticket job step).1.pending.Sublist surveyor.pending := by
  rcases step with ⟨events, activity | ending⟩
  · exact List.Sublist.refl _
  · simp only [settle, finish]
    split <;> exact List.filter_sublist

theorem sublist_take (orderly : Orderly surveyor) (now : Moment) :
    (surveyor.take now).1.pending.Sublist surveyor.pending := by
  have taken := takes orderly now
  generalize surveyor.take now = step at taken ⊢
  cases taken with
  | busy works => exact List.Sublist.refl _
  | retires idle stopping =>
      rw [(drained_retire orderly idle).pending]
      exact List.nil_sublist _
  | rests idle nothing => exact List.Sublist.refl _
  | begins ticket rest job idle queued found =>
      exact sublist_settle { surveyor with queue := rest } _ _ _ _

theorem sublist_resume (surveyor : Surveyor) (now : Moment) (wake : Wake) :
    (surveyor.resume now wake).1.pending.Sublist surveyor.pending := by
  have resumed := resumes surveyor now wake
  generalize surveyor.resume now wake = step at resumed ⊢
  cases resumed with
  | settles ticket job activity works => exact sublist_settle surveyor _ _ _ _
  | rests => exact List.Sublist.refl _

theorem liveScans_act_le (orderly : Orderly surveyor) (single : surveyor.liveScans ≤ 1)
    (turn : Turn) : (turn.act surveyor).1.liveScans ≤ 1 := by
  cases turn with
  | discover request surroundings => exact (liveScans_submit surveyor rfl).trans_le single
  | register request surroundings => exact (liveScans_submit surveyor rfl).trans_le single
  | cancel id => exact (liveScans_cancelWhere_le (hasId id) surveyor).trans single
  | configure mode config surroundings now =>
      rwa [liveScans, Turn.act, pending_configure, ← liveScans]
  | scan now => exact single
  | shutDown => exact (liveScans_cancelWhere_le (fun _ => true) surveyor).trans single
  | fire now => exact liveScans_fire_le single now
  | take now => exact (sublist_take orderly now).countP_le.trans single
  | resume now wake => exact (sublist_resume surveyor now wake).countP_le.trans single

theorem liveScans_play_le (orderly : Orderly surveyor) (single : surveyor.liveScans ≤ 1)
    (turns : List Turn) : (play turns surveyor).1.liveScans ≤ 1 := by
  induction turns generalizing surveyor with
  | nil => exact single
  | cons turn rest ih =>
      exact ih (keeps_act orderly turn).orderly (liveScans_act_le orderly single turn)

/-! ## Where scans come from -/

/-- Whether a request was pending already, apart from whether it was cancelled. -/
def WasPending (before : Surveyor) (entry : Entry) : Prop :=
  ∃ former ∈ before.pending, former.ticket = entry.ticket ∧ former.job.renew = entry.job.renew

/-- A new scan that a turn makes pending after others. -/
structure Enlists (surveyor : Surveyor) (turns : List Turn) (turn : Turn) (entry : Entry) :
    Prop where
  /-- the timer fires -/
  fires : ∃ now, turn = .fire now
  /-- nobody has told the surveyor to shut down -/
  isOpen : .shutDown ∉ turns
  /-- the scan has the plan of the request that was set last, and was not cancelled -/
  standing : ∃ standing, lastSetting? turns = some standing ∧ standing.plan.mode ≠ .off ∧
    entry.job = { plan := standing.plan, isScan := true, isCancelled := false }
  /-- and a ticket of its own -/
  ticket : entry.ticket = (play turns surveyor).1.accepted

theorem WasPending.refl {entry : Entry} (member : entry ∈ surveyor.pending) :
    surveyor.WasPending entry :=
  ⟨entry, member, rfl, rfl⟩

theorem wasPending_iff {entry : Entry} :
    surveyor.WasPending entry ↔ (entry.job.renew, entry.ticket) ∈ surveyor.submitted := by
  simp only [WasPending, submitted, List.mem_map, Prod.mk.injEq, and_comm]

/-- A turn of others than the timer makes no scan pending. -/
theorem wasPending_of_isScan (orderly : Orderly surveyor) {turn : Turn}
    (others : ∀ now, turn ≠ .fire now) {entry : Entry}
    (member : entry ∈ (turn.act surveyor).1.pending) (scan : entry.job.isScan) :
    surveyor.WasPending entry := by
  have admits := (admits_act orderly turn).submitted
  have submitted : (entry.job.renew, entry.ticket) ∈ (turn.act surveyor).1.submitted :=
    wasPending_iff.mp (.refl member)
  rcases List.mem_append.mp (admits.subset submitted) with old | new
  · exact wasPending_iff.mpr old
  · have job : entry.job.renew ∈ surveyor.admitted (turn.submission? surveyor) :=
      List.fst_mem_of_mem_zipIdx new
    have isNone : ∀ job, turn.submission? surveyor = some job → job.isScan = false := by
      intro job submits
      cases turn with
      | discover request surroundings => cases submits; rfl
      | register request surroundings => cases submits; rfl
      | fire now => exact absurd rfl (others now)
      | _ => contradiction
    rw [admitted] at job
    split at job
    · have other := isNone _ (Option.mem_toList.mp job)
      rw [show entry.job.renew.isScan = entry.job.isScan from rfl, scan] at other
      contradiction
    · contradiction

/-- A scan that a firing makes pending has the plan of the standing request. -/
theorem enlisted_fire {now : Nat} {entry : Entry}
    (member : entry ∈ (surveyor.fire now).1.pending) :
    surveyor.WasPending entry ∨
      surveyor.isStopping = false ∧ surveyor.standing.plan.mode ≠ .off ∧
        entry = ⟨surveyor.accepted, surveyor.standing.renew.asScan⟩ := by
  have cancelled : entry ∈ surveyor.firing.pending → surveyor.WasPending entry := by
    intro member
    have same : surveyor.firing.submitted = surveyor.submitted :=
      submitted_cancelWhere Job.isScan surveyor
    exact wasPending_iff.mpr (same ▸ wasPending_iff.mp (.refl member))
  have fired := fires surveyor now
  generalize (surveyor.fire now).1 = after at fired member
  cases fired with
  | waits => exact Or.inl (.refl member)
  | stops => exact Or.inl (.refl member)
  | rests => exact Or.inl (cancelled member)
  | submits isOpen _ on _ =>
      rcases List.mem_append.mp member with old | new
      · exact Or.inl (cancelled old)
      · exact Or.inr ⟨isOpen, on, List.mem_singleton.mp new⟩
  | retries => exact Or.inl (cancelled member)

/-- A firing leaves requests alone that are no scans. -/
theorem mem_pending_fire {entry : Entry} (member : entry ∈ surveyor.pending)
    (other : entry.job.isScan = false) (now : Nat) : entry ∈ (surveyor.fire now).1.pending := by
  have spared : entry ∈ surveyor.firing.pending :=
    List.mem_map.mpr ⟨entry, member, by simp [other]⟩
  have fired := fires surveyor now
  generalize (surveyor.fire now).1 = after at fired ⊢
  cases fired with
  | waits => exact member
  | stops => exact member
  | rests => exact spared
  | submits => exact List.mem_append_left _ spared
  | retries => exact spared

/-! ## Any turns -/

/-- What holds of the periodic scans of a surveyor after some turns. -/
structure Renewed (surveyor : Surveyor) (turns : List Turn) : Prop where
  /-- at most one of those that are pending was not cancelled -/
  single : (play turns surveyor).1.liveScans ≤ 1
  /-- another turn makes no scan pending, except for a firing that submits the request that was
  set last -/
  enlisted : ∀ turn, ∀ entry ∈ (turn.act (play turns surveyor).1).1.pending, entry.job.isScan →
    (play turns surveyor).1.WasPending entry ∨ Enlists surveyor turns turn entry
  /-- and a firing leaves requests alone that are no scans -/
  spared : ∀ now, ∀ entry ∈ (play turns surveyor).1.pending, entry.job.isScan = false →
    entry ∈ ((play turns surveyor).1.fire now).1.pending

theorem not_mem_of_isOpen (orderly : Orderly surveyor)
    (isOpen : (play turns surveyor).1.isStopping = false) : .shutDown ∉ turns := by
  intro shuts
  obtain ⟨earlier, later, rfl⟩ := List.append_of_mem shuts
  have middle := (keeps_act (keeps_play orderly earlier).orderly .shutDown).orderly
  rw [play_append, play] at isOpen
  rw [isStopping_play middle rfl later] at isOpen
  contradiction

/-- Whatever turns are taken after the start, at most one periodic scan is live, and each new
one is up to date. -/
theorem start_renewed (discoverer : Settings.Discoverer)
    (capacity initialDelay reportInterval : Nat) (isContainer : Bool) (now : Nat)
    (turns : List Turn) :
    Renewed (start discoverer capacity initialDelay reportInterval isContainer now) turns := by
  have orderly := orderly_start discoverer capacity initialDelay reportInterval isContainer now
  generalize begins : start discoverer capacity initialDelay reportInterval isContainer now =
    surveyor at orderly
  have nobody : surveyor.liveScans = 0 := by rw [← begins]; rfl
  have off : surveyor.standing.plan.mode = .off := by rw [← begins]; rfl
  have after := (keeps_play orderly turns).orderly
  constructor
  · exact liveScans_play_le orderly (nobody.trans_le (Nat.zero_le 1)) turns
  · intro turn entry member scan
    by_cases others : ∀ now, turn ≠ .fire now
    · exact Or.inl (wasPending_of_isScan after others member scan)
    · obtain ⟨now, rfl⟩ := not_forall_not.mp others
      rcases enlisted_fire member with old | ⟨isOpen, on, rfl⟩
      · exact Or.inl old
      · right
        rw [standing_play orderly] at on
        refine ⟨⟨now, rfl⟩, not_mem_of_isOpen orderly isOpen, ?_, rfl⟩
        rw [standing_play orderly]
        cases last : lastSetting? turns with
        | none => rw [last] at on; exact absurd off on
        | some standing => rw [last] at on; exact ⟨standing, rfl, on, rfl⟩
  · intro now entry member other
    exact mem_pending_fire member other now

end FieldSurvey.Surveyor
