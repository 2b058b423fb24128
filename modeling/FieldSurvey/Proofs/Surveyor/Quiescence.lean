import FieldSurvey.Proofs.Surveyor.Faithful

/-!
# Coming to rest

A surveyor that is told to shut down accepts no more requests, and nothing arms its timer any
more.  Its worker lets go of the requests that are still pending and stops, at which point the
call to shut down returns.  From then on the surveyor is at rest: all that calls bring about is
that requests are rejected.
-/

namespace FieldSurvey.Surveyor

open Model (ProgressKind)
open Survey (Event Status)

variable {surveyor : Surveyor} {ticket : Nat}

/-! ## Nothing is accepted -/

theorem isStopping_take (orderly : Orderly surveyor) (now : Moment) :
    (surveyor.take now).1.isStopping = surveyor.isStopping := by
  have taken := takes orderly now
  generalize surveyor.take now = step at taken ⊢
  cases taken with
  | busy works => rfl
  | retires idle stopping => exact isStopping_drain _ _
  | rests idle nothing => rfl
  | begins ticket rest job idle queued found => exact isStopping_settle _ _ _ _ _

theorem isStopping_resume (surveyor : Surveyor) (now : Moment) (wake : Survey.Wake) :
    (surveyor.resume now wake).1.isStopping = surveyor.isStopping := by
  have resumed := resumes surveyor now wake
  generalize surveyor.resume now wake = step at resumed ⊢
  cases resumed with
  | settles ticket job activity works => exact isStopping_settle _ _ _ _ _
  | rests => rfl

theorem isStopping_act (orderly : Orderly surveyor) (stopping : surveyor.isStopping)
    (turn : Turn) : (turn.act surveyor).1.isStopping := by
  by_cases works : turn.isWork
  · cases turn with
    | take now => exact (isStopping_take orderly now).trans stopping
    | resume now wake => exact (isStopping_resume surveyor now wake).trans stopping
    | _ => contradiction
  · exact (shuts_act turn works surveyor).isStopping stopping

theorem isStopping_play (orderly : Orderly surveyor) (stopping : surveyor.isStopping)
    (turns : List Turn) : (play turns surveyor).1.isStopping := by
  induction turns generalizing surveyor with
  | nil => exact stopping
  | cons turn rest ih =>
      exact ih (keeps_act orderly turn).orderly (isStopping_act orderly stopping turn)

theorem acceptances_of_isStopping (orderly : Orderly surveyor) (stopping : surveyor.isStopping)
    (turns : List Turn) : acceptances turns surveyor = [] := by
  induction turns generalizing surveyor with
  | nil => rfl
  | cons turn rest ih =>
      rw [acceptances, admitted_of_isStopping stopping, List.nil_append]
      exact ih (keeps_act orderly turn).orderly (isStopping_act orderly stopping turn)

/-- Once a surveyor is stopping its requests can only leave. -/
theorem admits_of_isStopping (orderly : Orderly surveyor) (stopping : surveyor.isStopping)
    (turns : List Turn) : Admits surveyor [] (play turns surveyor).1 :=
  acceptances_of_isStopping orderly stopping turns ▸ admits_play orderly turns

theorem accepted_of_isStopping (orderly : Orderly surveyor) (stopping : surveyor.isStopping)
    (turns : List Turn) : (play turns surveyor).1.accepted = surveyor.accepted :=
  (admits_of_isStopping orderly stopping turns).accepted

theorem tickets_of_isStopping (orderly : Orderly surveyor) (stopping : surveyor.isStopping)
    (turns : List Turn) : (play turns surveyor).1.tickets.Sublist surveyor.tickets := by
  have left := ((admits_of_isStopping orderly stopping turns).submitted).map Prod.snd
  simpa only [tickets_eq_map_submitted, List.zipIdx_nil, List.append_nil] using left

/-! ## The timer stays silent -/

/-- A timer that was shut down. -/
structure Timer.IsSilent (timer : Timer) : Prop where
  isShutDown : timer.isShutDown
  isUnarmed : timer.dueAt = none

namespace Timer.IsSilent

variable {timer : Timer}

theorem arm (silent : timer.IsSilent) (now delay : Nat) : timer.arm now delay = timer :=
  if_pos silent.isShutDown

theorem ensureArmed (silent : timer.IsSilent) (now delay : Nat) :
    timer.ensureArmed now delay = timer := by
  rw [Timer.ensureArmed, silent.arm, ite_self]

theorem shutDown (silent : timer.IsSilent) : timer.shutDown = timer := by
  obtain ⟨isShutDown, isUnarmed⟩ := silent
  rw [Timer.shutDown, ← isShutDown, ← isUnarmed]

theorem not_isDue (silent : timer.IsSilent) (now : Nat) : timer.isDue now = false := by
  rw [Timer.isDue, silent.isUnarmed]
  rfl

theorem isArmed_eq_false (silent : timer.IsSilent) : timer.isArmed = false := by
  rw [Timer.isArmed, silent.isUnarmed]
  rfl

end Timer.IsSilent

theorem silent_shutDown (timer : Timer) : timer.shutDown.IsSilent :=
  ⟨rfl, rfl⟩

theorem fire_of_silent (silent : surveyor.timer.IsSilent) (now : Nat) :
    surveyor.fire now = (surveyor, []) := by
  rw [fire, silent.not_isDue, if_neg Bool.false_ne_true]

theorem timer_configure (silent : surveyor.timer.IsSilent) (mode : Model.Mode)
    (config : Model.ScanConfig) (surroundings : Surroundings) (now : Nat) :
    (surveyor.configure mode config surroundings now).timer = surveyor.timer := by
  simp only [configure_eq, silent.ensureArmed, ite_self]

theorem timer_settle (silent : surveyor.timer.IsSilent) (now ticket : Nat) (job : Job)
    (step : List Event × Status) :
    (surveyor.settle now ticket job step).1.timer = surveyor.timer := by
  rcases step with ⟨events, activity | ending⟩
  · rfl
  · simp only [settle, finish]
    split
    · exact silent.arm now _
    · rfl

theorem timer_drain (left : List Nat) (surveyor : Surveyor) :
    (drain left surveyor).1.timer = surveyor.timer := by
  obtain ⟨pending, stats, same⟩ := exists_drain left surveyor
  rw [same]

theorem timer_take (orderly : Orderly surveyor) (silent : surveyor.timer.IsSilent)
    (now : Moment) : (surveyor.take now).1.timer = surveyor.timer := by
  have taken := takes orderly now
  generalize surveyor.take now = step at taken ⊢
  cases taken with
  | busy works => rfl
  | retires idle stopping => exact timer_drain _ _
  | rests idle nothing => rfl
  | begins ticket rest job idle queued found =>
      have same : Timer.IsSilent (timer { surveyor with queue := rest }) := silent
      exact timer_settle same _ _ _ _

/-- Nobody changes a timer that was shut down. -/
theorem timer_act (orderly : Orderly surveyor) (silent : surveyor.timer.IsSilent) (turn : Turn) :
    (turn.act surveyor).1.timer = surveyor.timer := by
  cases turn with
  | discover request surroundings => exact timer_submit surveyor _
  | register request surroundings => exact timer_submit surveyor _
  | cancel id => rfl
  | configure mode config surroundings now =>
      exact timer_configure silent mode config surroundings now
  | scan now => exact silent.arm now 0
  | shutDown => exact silent.shutDown
  | fire now => rw [Turn.act, fire_of_silent silent]
  | take now => exact timer_take orderly silent now
  | resume now wake =>
      have resumed := resumes surveyor now wake
      simp only [Turn.act]
      generalize surveyor.resume now wake = step at resumed ⊢
      cases resumed with
      | settles ticket job activity works => exact timer_settle silent _ _ _ _
      | rests => rfl

theorem timer_play (orderly : Orderly surveyor) (silent : surveyor.timer.IsSilent)
    (turns : List Turn) : (play turns surveyor).1.timer = surveyor.timer := by
  induction turns generalizing surveyor with
  | nil => rfl
  | cons turn rest ih =>
      have same := timer_act orderly silent turn
      exact (ih (keeps_act orderly turn).orderly (same.symm ▸ silent)).trans same

/-! ## Requests that were not started -/

/-- A request that has left has come to one ending, which is the last that was told of it. -/
theorem HasLeft.exists_ending {turns : List Turn} (left : HasLeft surveyor turns ticket) :
    ∃ kind, (kindsOf (some ticket) (play turns surveyor).2).getLast? = some kind ∧
      (kindsOf (some ticket) (play turns surveyor).2).filter ProgressKind.isTerminal = [kind] := by
  obtain ⟨kinds, last, told, quiet, ends⟩ := left.told
  refine ⟨last, ?_, ?_⟩
  · rw [told, List.getLast?_concat]
  · rw [told, List.filter_append, List.filter_eq_nil_iff.mpr quiet, List.nil_append]
    exact List.filter_eq_self.mpr (by simpa using ends)

/-- The worker does not hand over the results of a request that waits. -/
theorem not_hands_of_mem_queue (orderly : Orderly surveyor) (waits : ticket ∈ surveyor.queue) :
    ¬surveyor.Hands ticket := by
  rintro ⟨batch, hands⟩
  obtain ⟨job, next, works⟩ := exists_of_handing hands
  exact (Begun.of_orderly orderly works).not_mem_queue waits

/-- A request that waits when the surveyor is told to shut down is dismissed. -/
theorem dismissed_of_waiting (steady : Steady surveyor) {earlier : List Turn} (later : List Turn)
    (waits : ticket ∈ (play earlier surveyor).1.queue) :
    Dismissed surveyor (earlier ++ [.shutDown]) later ticket := by
  have shut : (play (earlier ++ [.shutDown]) surveyor).1 = (play earlier surveyor).1.stop := by
    rw [play_append]
    rfl
  have middle := steady.play (earlier ++ [.shutDown])
  have stillWaits : ticket ∈ (play (earlier ++ [.shutDown]) surveyor).1.queue := by
    rw [shut]
    exact waits
  have stopping : (play (earlier ++ [.shutDown]) surveyor).1.isStopping := by
    rw [shut]
    rfl
  have pending : ticket ∈ (play (earlier ++ [.shutDown]) surveyor).1.tickets := by
    rw [middle.orderly.tickets_eq]
    exact List.mem_append_right _ stillWaits
  exact dismissed_of_cancelled steady _ later (middle.aware.stopping stopping ticket pending)
    (not_hands_of_mem_queue middle.orderly stillWaits)

/-- A request that has not started by the time the surveyor is told to shut down is told that it
was cancelled, before or after. -/
theorem getLast?_of_unstarted (steady : Steady surveyor) (fromZero : surveyor.accepted = 0)
    {earlier later : List Turn} (known : ticket < (play earlier surveyor).1.accepted)
    (unstarted : .started ∉ kindsOf (some ticket) (play earlier surveyor).2)
    (gone : ticket ∉ (play (earlier ++ .shutDown :: later) surveyor).1.tickets) :
    (kindsOf (some ticket) (play (earlier ++ .shutDown :: later) surveyor).2).getLast? =
      some .cancelled := by
  have keeps := keeps_play steady.orderly earlier
  obtain ⟨isScanning, course⟩ := keeps.begun ticket (fromZero ▸ Nat.zero_le ticket) known
  obtain ⟨position, reach, stands⟩ := course.position
  cases position with
  | running stage => exact absurd (Survey.Position.started_of_running reach) unstarted
  | ended ending =>
      obtain ⟨-, silent⟩ := (keeps_play keeps.orderly (.shutDown :: later)).gone known stands
      rw [play_append, kindsOf_append, silent, List.append_nil]
      exact Survey.getLast?_of_unstarted reach unstarted
  | waiting =>
      have whole : earlier ++ .shutDown :: later = earlier ++ [.shutDown] ++ later := by simp
      rw [whole] at gone ⊢
      exact (dismissed_of_waiting steady later stands).ended gone

/-! ## The worker stops -/

/-- A surveyor without requests has nothing to carry out. -/
theorem not_running_of_tickets (orderly : Orderly surveyor) (nobody : surveyor.tickets = []) :
    surveyor.worker = .idle ∨ surveyor.worker = .stopped := by
  cases works : surveyor.worker with
  | idle => exact Or.inl rfl
  | stopped => exact Or.inr rfl
  | running ticket job activity =>
      have pending := (Begun.of_orderly orderly works).mem_tickets
      rw [nobody] at pending
      contradiction

/-- A worker that is to stop and has nothing to carry out stops in the turn that it waits for. -/
theorem worker_of_awaited (orderly : Orderly surveyor) (stopping : surveyor.isStopping)
    (nobody : surveyor.tickets = []) {turn : Turn} (awaited : turn.Awaited surveyor) :
    (turn.act surveyor).1.worker = .stopped := by
  rcases not_running_of_tickets orderly nobody with idle | stopped
  · simp only [Turn.Awaited, idle] at awaited
    obtain ⟨now, rfl⟩ := awaited
    simp only [Turn.act, take, idle, stopping, if_true]
    exact (drained_retire orderly idle).worker
  · simp only [Turn.Awaited, stopped] at awaited

section Endless

variable {turns : Nat → Turn} {moment : Nat}

theorem exists_play_opening (turns : Nat → Turn) (surveyor : Surveyor) {later : Nat}
    (order : moment ≤ later) :
    ∃ rest, (play (opening turns later) surveyor).1 =
      (play rest (play (opening turns moment) surveyor).1).1 := by
  obtain ⟨rest, split⟩ := exists_opening_append turns order
  exact ⟨rest, by rw [split, play_append]⟩

/-- From any time on the requests of a surveyor that is stopping leave, until there are none. -/
theorem exists_cleared (lively : Lively surveyor) (fair : surveyor.Fair turns)
    (stopping : (play (opening turns moment) surveyor).1.isStopping) :
    ∃ later, moment ≤ later ∧ (play (opening turns later) surveyor).1.tickets = [] := by
  -- What is pending at a later moment is a sublist of what is pending now, and a shorter one
  -- once the first request has left.
  induction count : (play (opening turns moment) surveyor).1.tickets.length using
    Nat.strong_induction_on generalizing moment with
  | _ count ih =>
      subst count
      cases pending : (play (opening turns moment) surveyor).1.tickets with
      | nil => exact ⟨moment, Nat.le_refl moment, pending⟩
      | cons ticket others =>
          have orderly := (lively_play lively (opening turns moment)).orderly
          obtain ⟨soon, since, gone⟩ := exists_gone lively fair moment ticket
          obtain ⟨rest, after⟩ := exists_play_opening turns surveyor since
          have left := tickets_of_isStopping orderly stopping rest
          rw [← after] at left
          have fewer : (play (opening turns soon) surveyor).1.tickets.length <
              (play (opening turns moment) surveyor).1.tickets.length := by
            apply Nat.lt_of_le_of_ne left.length_le
            intro same
            rw [left.eq_of_length same, pending] at gone
            exact gone List.mem_cons_self
          have still : (play (opening turns soon) surveyor).1.isStopping :=
            after ▸ isStopping_play orderly stopping rest
          obtain ⟨later, order, cleared⟩ := ih _ fewer still rfl
          exact ⟨later, since.trans order, cleared⟩

/-- The worker of a surveyor that is stopping stops, if it gets what it waits for. -/
theorem exists_stopped (lively : Lively surveyor) (fair : surveyor.Fair turns)
    (stopping : (play (opening turns moment) surveyor).1.isStopping) :
    ∃ later, moment ≤ later ∧ (play (opening turns later) surveyor).1.worker = .stopped := by
  obtain ⟨soon, since, cleared⟩ := exists_cleared lively fair stopping
  obtain ⟨later, order, stopped | awaited⟩ := fair soon
  · exact ⟨later, since.trans order, stopped⟩
  · obtain ⟨first, begins⟩ := exists_play_opening turns surveyor since
    obtain ⟨rest, after⟩ := exists_play_opening turns surveyor order
    have still : (play (opening turns soon) surveyor).1.isStopping :=
      begins ▸ isStopping_play (lively_play lively _).orderly stopping first
    have orderly := (lively_play lively (opening turns soon)).orderly
    have left := tickets_of_isStopping orderly still rest
    rw [← after, cleared] at left
    have stops : (play (opening turns later) surveyor).1.isStopping :=
      after ▸ isStopping_play orderly still rest
    refine ⟨later + 1, Nat.le_succ_of_le (since.trans order), ?_⟩
    rw [play_opening_succ]
    exact worker_of_awaited (lively_play lively _).orderly stops (List.sublist_nil.mp left) awaited

end Endless

/-! ## At rest -/

/-- A surveyor whose worker has stopped. -/
structure Retired (surveyor : Surveyor) : Prop where
  orderly : Orderly surveyor
  isStopping : surveyor.isStopping
  worker : surveyor.worker = .stopped
  tickets : surveyor.tickets = []
  timer : surveyor.timer.IsSilent

/-- The request that a caller submits in a turn. -/
def Turn.call? : Turn → Option Job
  | discover request surroundings => some (.ofRequest request surroundings)
  | register request surroundings => some (.ofRequest request.toRequest surroundings)
  | _ => none

/-- What is told of a request that is rejected since the queue is closed. -/
def closed (surveyor : Surveyor) (job : Job) : Signal :=
  surveyor.signal none job (.failed Rejection.closed.reason)

namespace Retired

theorem act_of_isWork (retired : Retired surveyor) {turn : Turn} (works : turn.isWork) :
    turn.act surveyor = (surveyor, []) := by
  cases turn with
  | take now => simp only [Turn.act, take, retired.worker]
  | resume now wake => simp only [Turn.act, resume, retired.worker]
  | _ => contradiction

/-- Nobody gets a worker to work that has stopped. -/
theorem act (retired : Retired surveyor) (turn : Turn) : Retired (turn.act surveyor).1 where
  orderly := (keeps_act retired.orderly turn).orderly
  isStopping := isStopping_act retired.orderly retired.isStopping turn
  worker := by
    by_cases works : turn.isWork
    · rw [retired.act_of_isWork works]
      exact retired.worker
    · exact (aside_act turn works surveyor).worker.trans retired.worker
  tickets := by
    by_cases works : turn.isWork
    · rw [retired.act_of_isWork works]
      exact retired.tickets
    · exact ((shuts_act turn works surveyor).tickets retired.isStopping).trans retired.tickets
  timer := by
    rw [timer_act retired.orderly retired.timer turn]
    exact retired.timer

theorem play (retired : Retired surveyor) (turns : List Turn) :
    Retired (play turns surveyor).1 := by
  induction turns generalizing surveyor with
  | nil => exact retired
  | cons turn rest ih => exact ih (retired.act turn)

/-- All that is told in a turn is that the request is rejected which is submitted in it. -/
theorem told (retired : Retired surveyor) (turn : Turn) :
    (turn.act surveyor).2 = (turn.call?.map surveyor.closed).toList := by
  cases turn with
  | discover request surroundings =>
      rw [Turn.act, discover, submit_of_isStopping retired.isStopping]
      rfl
  | register request surroundings =>
      rw [Turn.act, discover, submit_of_isStopping retired.isStopping]
      rfl
  | fire now =>
      rw [Turn.act, fire_of_silent retired.timer]
      rfl
  | take now =>
      rw [retired.act_of_isWork rfl]
      rfl
  | resume now wake =>
      rw [retired.act_of_isWork rfl]
      rfl
  | _ => rfl

theorem told_play (retired : Retired surveyor) (turns : List Turn) :
    (Surveyor.play turns surveyor).2 = (turns.filterMap Turn.call?).map surveyor.closed := by
  induction turns generalizing surveyor with
  | nil => rfl
  | cons turn rest ih =>
      have same : (turn.act surveyor).1.closed = surveyor.closed := by
        funext job
        simp only [closed, signal, reporter, (keeps_act retired.orderly turn).discoverer]
      have later := ih (retired.act turn)
      rw [same] at later
      simp only [Surveyor.play, retired.told turn, later]
      cases call : turn.call? <;> simp [call]

theorem handing_eq_none (retired : Retired surveyor) : surveyor.handing = none := by
  simp only [handing, retired.worker]

theorem takings_eq_nil (retired : Retired surveyor) (turns : List Turn) :
    takings turns surveyor = [] := by
  induction turns generalizing surveyor with
  | nil => rfl
  | cons turn rest ih =>
      have nothing : turn.taking? surveyor = none := by
        unfold Turn.taking?
        split
        · rw [retired.handing_eq_none, Option.filter_none]
        · rfl
      rw [takings, nothing, ih (retired.act turn)]
      rfl

end Retired

/-- What comes of turns that are taken once a surveyor is at rest. -/
structure AtRest (surveyor : Surveyor) (turns : List Turn) : Prop where
  /-- no request is pending -/
  pending : (play turns surveyor).1.pending = []
  /-- the timer is not going to fire, and has not been armed since -/
  unarmed : (play turns surveyor).1.timer.isArmed = false
  armings : (play turns surveyor).1.timer.armings = surveyor.timer.armings
  /-- every request that is submitted is rejected -/
  rejects : ∀ request surroundings,
    ((play turns surveyor).1.discover request surroundings).1 = some .closed
  /-- of which one error is told each time, and nothing else is told at all -/
  told : (play turns surveyor).2 = (turns.filterMap Turn.call?).map surveyor.closed
  /-- no batch is handed over or taken -/
  unhanded : (play turns surveyor).1.handing = none
  untaken : takings turns surveyor = []

theorem Retired.atRest (retired : Retired surveyor) (turns : List Turn) :
    AtRest surveyor turns where
  pending := List.map_eq_nil_iff.mp (retired.play turns).tickets
  unarmed := (retired.play turns).timer.isArmed_eq_false
  armings := by rw [timer_play retired.orderly retired.timer]
  rejects request surroundings := by
    rw [discover, submit_of_isStopping (retired.play turns).isStopping]
  told := retired.told_play turns
  unhanded := (retired.play turns).handing_eq_none
  untaken := retired.takings_eq_nil turns

/-! ## Shutting down -/

/-- What holds once a call has returned by which a surveyor was told to shut down, with the turns
that were taken before the call and since. -/
structure Quiescent (surveyor : Surveyor) (earlier later : List Turn) : Prop where
  /-- every request that was ever accepted was told of one ending -/
  ended : ∀ ticket < (play (earlier ++ .shutDown :: later) surveyor).1.accepted, ∃ kind,
    (kindsOf (some ticket) (play (earlier ++ .shutDown :: later) surveyor).2).filter
      ProgressKind.isTerminal = [kind]
  /-- which is a cancellation if it had not started when the call was made -/
  unstarted : ∀ ticket < (play (earlier ++ .shutDown :: later) surveyor).1.accepted,
    .started ∉ kindsOf (some ticket) (play earlier surveyor).2 →
      (kindsOf (some ticket) (play (earlier ++ .shutDown :: later) surveyor).2).filter
        ProgressKind.isTerminal = [.cancelled]
  /-- and whatever turns follow, the surveyor is at rest -/
  atRest : ∀ turns, AtRest (play (earlier ++ .shutDown :: later) surveyor).1 turns

section ShuttingDown

variable {earlier later : List Turn}

/-- A surveyor whose worker has stopped after it was told to shut down has retired. -/
theorem retired_of_stopped (lively : Lively surveyor)
    (stopped : (play (earlier ++ .shutDown :: later) surveyor).1.worker = .stopped) :
    Retired (play (earlier ++ .shutDown :: later) surveyor).1 := by
  have after := lively_play lively (earlier ++ .shutDown :: later)
  obtain ⟨stopping, nobody⟩ := after.stopped stopped
  refine ⟨after.orderly, stopping, stopped, nobody, ?_⟩
  have orderly := (lively_act (lively_play lively earlier) .shutDown).orderly
  have silent := silent_shutDown (play earlier surveyor).1.timer
  rw [play_append]
  exact (timer_play orderly silent later).symm ▸ silent

theorem quiescent_of_stopped (steady : Steady surveyor) (lively : Lively surveyor)
    (fromZero : surveyor.accepted = 0)
    (stopped : (play (earlier ++ .shutDown :: later) surveyor).1.worker = .stopped) :
    Quiescent surveyor earlier later := by
  have retired := retired_of_stopped lively stopped
  have gone : ∀ ticket, ticket ∉ (play (earlier ++ .shutDown :: later) surveyor).1.tickets := by
    rw [retired.tickets]
    exact fun _ => List.not_mem_nil
  have left : ∀ ticket < (play (earlier ++ .shutDown :: later) surveyor).1.accepted,
      HasLeft surveyor (earlier ++ .shutDown :: later) ticket := by
    intro ticket below
    rcases lasts_or_hasLeft steady _ (Or.inr (fromZero ▸ Nat.zero_le ticket)) below with
      lasts | left
    · exact absurd lasts.pending (gone ticket)
    · exact left
  constructor
  · intro ticket below
    obtain ⟨kind, -, only⟩ := (left ticket below).exists_ending
    exact ⟨kind, only⟩
  · intro ticket below unstarted
    have same : (play (earlier ++ .shutDown :: later) surveyor).1.accepted =
        (play earlier surveyor).1.accepted := by
      rw [play_append]
      exact accepted_of_isStopping ((steady.play earlier).act .shutDown).orderly rfl later
    obtain ⟨kind, last, only⟩ := (left ticket below).exists_ending
    rw [getLast?_of_unstarted steady fromZero (same ▸ below) unstarted (gone ticket)] at last
    rw [only, Option.some.inj last]
  · exact retired.atRest

end ShuttingDown

/-- Whatever turns are taken after the surveyor was started, a call that tells it to shut down
returns if the worker gets what it waits for, and when it has returned the surveyor is at rest. -/
theorem start_comes_to_rest (discoverer : Settings.Discoverer)
    (capacity initialDelay reportInterval : Nat) (isContainer : Bool) (now : Nat) :
    (∀ earlier later,
      (play (earlier ++ .shutDown :: later)
        (start discoverer capacity initialDelay reportInterval isContainer now)).1.worker =
          .stopped →
      Quiescent (start discoverer capacity initialDelay reportInterval isContainer now)
        earlier later) ∧
    ∀ turns, Fair (start discoverer capacity initialDelay reportInterval isContainer now) turns →
      ∀ moment, turns moment = .shutDown →
        ∃ later, moment < later ∧ (play (opening turns later)
          (start discoverer capacity initialDelay reportInterval isContainer now)).1.worker =
            .stopped := by
  have steady := steady_start discoverer capacity initialDelay reportInterval isContainer now
  have lively := lively_start discoverer capacity initialDelay reportInterval isContainer now
  generalize begins : start discoverer capacity initialDelay reportInterval isContainer now =
    surveyor at steady lively
  have fromZero : surveyor.accepted = 0 := by rw [← begins]; rfl
  constructor
  · intro earlier later stopped
    exact quiescent_of_stopped steady lively fromZero stopped
  · intro turns fair moment shuts
    apply exists_stopped lively fair
    rw [play_opening_succ, shuts]
    rfl

/-- Turns in which a surveyor is told to shut down while one request runs and another one waits. -/
def closingTurns : Nat → Turn
  | 0 => .discover {} {}
  | 1 => .take ⟨0, .epoch⟩
  | 2 => .discover { id := some "second" } {}
  | 3 => .shutDown
  | 4 => .resume ⟨0, .epoch⟩ (.answered Survey.readyAnswers)
  | _ => .take ⟨0, .epoch⟩

example : kindsOf (some 1) (play (opening closingTurns 6) smallSurveyor).2 =
    [.pending, .cancelled] :=
  rfl

theorem opening_closingTurns :
    opening closingTurns 6 =
      opening closingTurns 3 ++ .shutDown :: [closingTurns 4, closingTurns 5] :=
  rfl

/-- The worker has stopped after the sixth of these turns, for good. -/
theorem worker_closingTurns (steps : Nat) :
    (play (opening closingTurns (6 + steps)) smallSurveyor).1.worker = .stopped := by
  have retired : Retired (play (opening closingTurns 6) smallSurveyor).1 := by
    rw [opening_closingTurns]
    exact retired_of_stopped (lively_start {} 1 0 0 false 0) rfl
  obtain ⟨rest, after⟩ := exists_play_opening closingTurns smallSurveyor (Nat.le_add_right 6 steps)
  rw [after]
  exact (retired.play rest).worker

theorem small_surveyor_comes_to_rest :
    (play (opening closingTurns 6) smallSurveyor).1.worker = .stopped ∧
      (kindsOf (some 1) (play (opening closingTurns 6) smallSurveyor).2).filter
        ProgressKind.isTerminal = [.cancelled] ∧
      AtRest (play (opening closingTurns 6) smallSurveyor).1
        [.discover {} {}, .scan 7, .shutDown] ∧
      smallSurveyor.Fair closingTurns ∧
      ∃ later, 3 < later ∧
        (play (opening closingTurns later) smallSurveyor).1.worker = .stopped := by
  have stopped : (play (opening closingTurns 6) smallSurveyor).1.worker = .stopped := rfl
  have below : 1 < (play (opening closingTurns 6) smallSurveyor).1.accepted := Nat.lt_succ_self 1
  have unstarted : .started ∉ kindsOf (some 1) (play (opening closingTurns 3) smallSurveyor).2 := by
    have told : kindsOf (some 1) (play (opening closingTurns 3) smallSurveyor).2 = [.pending] := rfl
    rw [told]
    decide
  have fair : smallSurveyor.Fair closingTurns := by
    intro moment
    exact ⟨6 + moment, Nat.le_add_left _ _, Or.inl (worker_closingTurns moment)⟩
  obtain ⟨quiet, returns⟩ := start_comes_to_rest {} 1 0 0 false 0
  rw [opening_closingTurns] at stopped below ⊢
  have quiescent := quiet _ _ stopped
  exact ⟨stopped, quiescent.unstarted 1 below unstarted, quiescent.atRest _, fair,
    returns closingTurns fair 3 rfl⟩

end FieldSurvey.Surveyor
