import FieldSurvey.Proofs.Surveyor.Admission

/-!
# The statistics balance

Every request that was accepted is pending, or it was counted under the way in which it ended
and was told so by one event.  Every submission that was rejected was counted as well, and told
by an event of its own.
-/

namespace FieldSurvey.Surveyor

open Model (ProgressKind)
open Survey (Belief CandidStep Ending Event Status Wake)

/-- How many events of a kind are told of requests that were accepted. -/
def countTold (kind : ProgressKind) (signals : List Signal) : Nat :=
  signals.countP fun signal => signal.ticket ≠ none ∧ signal.event.kind = kind

/-- The submission that is rejected in a turn, if one is, with the reason. -/
def Turn.refused (turn : Turn) (surveyor : Surveyor) : List (Job × Rejection) :=
  ((turn.submission? surveyor).bind fun job =>
    (turn.rejection? surveyor).map fun rejection => (job, rejection)).toList

/-- The submissions that are rejected in a sequence of turns, in order. -/
def refusals : List Turn → Surveyor → List (Job × Rejection)
  | [], _ => []
  | turn :: rest, surveyor => turn.refused surveyor ++ refusals rest (turn.act surveyor).1

/-- What is told of a rejected submission. -/
def refusal (surveyor : Surveyor) (refused : Job × Rejection) : Signal :=
  surveyor.signal none refused.1 (.failed refused.2.reason)

variable {surveyor before after : Surveyor} {ticket : Nat} {job : Job} {kind : ProgressKind}

@[simp]
theorem countTold_append (kind : ProgressKind) (front back : List Signal) :
    countTold kind (front ++ back) = countTold kind front + countTold kind back :=
  List.countP_append

theorem countTold_eq_zero (ends : kind.isTerminal) {signals : List Signal}
    (quiet : ∀ signal ∈ signals, signal.ticket = none ∨ ¬signal.event.kind.isTerminal) :
    countTold kind signals = 0 := by
  rw [countTold, List.countP_eq_zero]
  intro signal member isTold
  obtain ⟨hasTicket, rfl⟩ := of_decide_eq_true isTold
  exact (quiet signal member).elim hasTicket fun notLast => notLast ends

/-- Nothing is counted of a run but its ending. -/
theorem countTold_ended (ends : kind.isTerminal) (surveyor : Surveyor) (ticket : Nat) (job : Job)
    {events : List Event} (quiet : ∀ event ∈ events, event.ending? = none) (ending : Ending) :
    countTold kind ((events ++ [ending.event]).map (surveyor.signal (some ticket) job)) =
      if ending.event.kind = kind then 1 else 0 := by
  have before : countTold kind (events.map (surveyor.signal (some ticket) job)) = 0 := by
    apply countTold_eq_zero ends
    intro told member
    obtain ⟨event, inEvents, rfl⟩ := List.mem_map.mp member
    exact Or.inr (Survey.not_isTerminal_of_ending? (quiet event inEvents))
  rw [List.map_append, countTold_append, before, Nat.zero_add]
  simp [countTold, signal, List.countP_singleton]

/-! ## Keeping the books -/

/-- How many requests were counted that ended with an event of a kind. -/
def Stats.ended (stats : Stats) : ProgressKind → Nat
  | .finished => stats.finished
  | .cancelled => stats.cancelled
  | .error => stats.failed
  | _ => 0

/-- Whether every request that was accepted is pending or was counted when it ended. -/
structure Balanced (surveyor : Surveyor) : Prop where
  accepted : surveyor.stats.submitted = surveyor.accepted
  pending : surveyor.stats.submitted =
    surveyor.stats.finished + surveyor.stats.cancelled + surveyor.stats.failed +
      surveyor.pending.length

/-- A step that keeps the books: what it counts is what it tells. -/
structure Books (before : Surveyor) (step : Surveyor × List Signal) : Prop where
  balanced : Balanced before → Balanced step.1
  ended : ∀ kind : ProgressKind, kind.isTerminal →
    step.1.stats.ended kind = before.stats.ended kind + countTold kind step.2

theorem Books.trans {first second : Surveyor × List Signal} (front : Books before first)
    (back : Books first.1 second) : Books before (second.1, first.2 ++ second.2) where
  balanced balanced := back.balanced (front.balanced balanced)
  ended kind ends := by
    rw [back.ended kind ends, front.ended kind ends, countTold_append, Nat.add_assoc]

/-- A step in which no request is accepted and none ends. -/
theorem books_still {signals : List Signal} (stats : after.stats = before.stats)
    (accepted : after.accepted = before.accepted)
    (pending : after.pending.length = before.pending.length)
    (quiet : ∀ signal ∈ signals, ¬signal.event.kind.isTerminal) :
    Books before (after, signals) where
  balanced balanced :=
    ⟨by rw [stats, accepted, balanced.accepted], by rw [stats, pending, balanced.pending]⟩
  ended kind ends := by
    rw [stats, countTold_eq_zero ends fun signal member => Or.inr (quiet signal member)]
    rfl

theorem books_silent (stats : after.stats = before.stats)
    (accepted : after.accepted = before.accepted)
    (pending : after.pending.length = before.pending.length) : Books before (after, []) :=
  books_still stats accepted pending fun _ member => absurd member List.not_mem_nil

theorem books_submit (surveyor : Surveyor) (job : Job) :
    Books surveyor (surveyor.submit job).2 := by
  unfold submit
  split
  case h_1 rejection _ =>
    constructor
    · exact fun balanced => ⟨balanced.accepted, balanced.pending⟩
    · intro kind ends
      rw [countTold_eq_zero ends (by simp [signal])]
      cases kind <;> rfl
  case h_2 =>
    constructor
    · intro balanced
      constructor
      · exact congrArg (· + 1) balanced.accepted
      · have pending := balanced.pending
        simp only [accept, Stats.countSubmitted, List.length_append, List.length_singleton]
        omega
    · intro kind ends
      have quiet : ∀ told ∈ (if surveyor.pending.length = 0 then []
          else [surveyor.signal (some surveyor.accepted) job (.pending surveyor.pending.length)]),
          told.ticket = none ∨ ¬told.event.kind.isTerminal := by
        intro told member
        split at member
        · contradiction
        · rw [List.mem_singleton.mp member]
          exact Or.inr Bool.false_ne_true
      rw [countTold_eq_zero ends quiet]
      cases kind <;> rfl

theorem composable_books : Composable Books where
  trans := Books.trans
  timer _ _ := books_silent rfl rfl rfl
  cancelWhere surveyor test := books_silent rfl rfl (by simp [cancelWhere])
  submit := books_submit

/-! ## The worker -/

theorem length_close (nodup : surveyor.tickets.Nodup) (member : ticket ∈ surveyor.tickets)
    (ending : Ending) :
    (surveyor.close ticket ending).pending.length + 1 = surveyor.pending.length := by
  have left := congrArg List.length (tickets_close surveyor ticket ending)
  rw [← nodup.erase_eq_filter, List.length_erase_of_mem member] at left
  have some := List.length_pos_of_mem member
  simp only [tickets, List.length_map] at left some
  omega

theorem ended_count (stats : Stats) (ending : Ending) (kind : ProgressKind) :
    (stats.count ending).ended kind =
      stats.ended kind + if ending.event.kind = kind then 1 else 0 := by
  cases ending <;> cases kind <;> rfl

/-- A request that ends leaves those that are pending and is counted. -/
theorem Balanced.close (balanced : Balanced surveyor) (nodup : surveyor.tickets.Nodup)
    (member : ticket ∈ surveyor.tickets) (ending : Ending) :
    Balanced (surveyor.close ticket ending) := by
  have left := length_close nodup member ending
  have pending := balanced.pending
  cases ending <;>
  · constructor
    · exact balanced.accepted
    · simp only [Surveyor.close, Stats.count, Stats.countFinished, Stats.countCancelled,
        Stats.countFailed] at left ⊢
      omega

theorem Orderly.nodup (orderly : Orderly surveyor) : surveyor.tickets.Nodup :=
  orderly.increasing.imp fun less => Nat.ne_of_lt less

/-- What the worker tells of the request that it carries out is what it counts. -/
theorem books_settle (begun : Begun surveyor ticket) {isCancelled : Bool} {belief : Belief}
    {step : List Event × Status} (candid : CandidStep isCancelled belief step) (now : Nat)
    (job : Job) : Books surveyor (surveyor.settle now ticket job step) := by
  have nodup : surveyor.tickets.Nodup := begun.increasing.imp fun less => Nat.ne_of_lt less
  cases candid with
  | @waits events activity quiet candid free =>
      apply books_still
      · rfl
      · rfl
      · rfl
      · intro told member
        obtain ⟨event, inEvents, rfl⟩ := List.mem_map.mp member
        exact Survey.not_isTerminal_of_ending? (quiet event inEvents)
  | @ends events ending quiet warranted =>
      have finished : (surveyor.finish now ticket job ending).accepted = surveyor.accepted ∧
          (surveyor.finish now ticket job ending).stats = surveyor.stats.count ending ∧
          (surveyor.finish now ticket job ending).pending =
            (surveyor.close ticket ending).pending := by
        rw [finish_eq]
        split <;> exact ⟨rfl, rfl, rfl⟩
      obtain ⟨accepted, stats, pending⟩ := finished
      constructor
      · intro balanced
        have closed := balanced.close nodup begun.mem_tickets ending
        constructor
        · rw [settle, stats, accepted]
          exact closed.accepted
        · rw [settle, stats, pending]
          exact closed.pending
      · intro kind ends
        rw [settle, stats, ended_count, countTold_ended ends surveyor ticket job quiet ending]

theorem books_drain {left : List Nat} (nodup : left.Nodup) (tickets_eq : surveyor.tickets = left) :
    Books surveyor (drain left surveyor) := by
  induction left generalizing surveyor with
  | nil => exact books_silent rfl rfl rfl
  | cons first rest ih =>
      have member : first ∈ surveyor.tickets := by
        rw [tickets_eq]
        exact List.mem_cons_self
      obtain ⟨job, found⟩ := exists_job? member
      have closed : Books surveyor (surveyor.close first .cancelled,
          [surveyor.signal (some first) job .cancelled]) := by
        constructor
        · intro balanced
          exact balanced.close (tickets_eq ▸ nodup) member .cancelled
        · intro kind ends
          have silent : ∀ event ∈ ([] : List Event), event.ending? = none := by simp
          have told := countTold_ended ends surveyor first job silent .cancelled
          exact (ended_count surveyor.stats .cancelled kind).trans (congrArg _ told.symm)
      have left : (surveyor.close first .cancelled).tickets = rest := by
        rw [tickets_close, tickets_eq, ← nodup.erase_eq_filter, List.erase_cons_head]
      unfold drain
      rw [found]
      exact closed.trans (ih (List.nodup_cons.mp nodup).2 left)

theorem books_take (steady : Steady surveyor) (now : Moment) :
    Books surveyor (surveyor.take now) := by
  have taken := takes steady.orderly now
  generalize surveyor.take now = step at taken ⊢
  cases taken with
  | busy works => exact books_silent rfl rfl rfl
  | retires idle stopping =>
      have queued := tickets_eq_queue steady.orderly idle
      have stopped : Books surveyor ({ surveyor with queue := [], worker := .stopped }, []) :=
        books_silent rfl rfl rfl
      exact stopped.trans (books_drain (queued ▸ steady.orderly.nodup) queued)
  | rests idle nothing => exact books_silent rfl rfl rfl
  | begins ticket rest job idle queued found =>
      have begun := Begun.of_taken steady.orderly idle queued
      have told : Books surveyor ({ surveyor with queue := rest },
          Surveyor.positions ticket { surveyor with queue := rest }) := by
        apply books_still
        · rfl
        · rfl
        · rfl
        · intro signal member
          rw [(mem_positions begun member).1]
          exact Bool.false_ne_true
      exact told.trans (books_settle begun (candid_begin now job _) now.millis job)

theorem books_resume (steady : Steady surveyor) (now : Moment) (wake : Wake) :
    Books surveyor (surveyor.resume now wake) := by
  have resumed := resumes surveyor now wake
  generalize surveyor.resume now wake = step at resumed ⊢
  cases resumed with
  | settles ticket job activity works =>
      rcases Survey.resume_candid now.timestamp (steady.aware.worker ticket job activity works) wake
        with still | candid
      · rw [still, settle_still works]
        exact books_silent rfl rfl rfl
      · exact books_settle (Begun.of_orderly steady.orderly works) candid now.millis job
  | rests => exact books_silent rfl rfl rfl

/-! ## Turns -/

theorem books_act (steady : Steady surveyor) (turn : Turn) :
    Books surveyor (turn.act surveyor) := by
  cases turn with
  | discover request surroundings => exact books_submit surveyor _
  | register request surroundings => exact books_submit surveyor _
  | cancel id => exact composable_books.cancelWhere surveyor (hasId id)
  | configure mode config surroundings now =>
      rw [Turn.act, configure_eq]
      exact books_silent rfl rfl rfl
  | scan now => exact books_silent rfl rfl rfl
  | shutDown => exact books_silent rfl rfl (by simp [stop, cancelWhere])
  | fire now => exact composable_books.fire surveyor now
  | take now => exact books_take steady now
  | resume now wake => exact books_resume steady now wake

theorem books_play (steady : Steady surveyor) (turns : List Turn) :
    Books surveyor (play turns surveyor) := by
  induction turns generalizing surveyor with
  | nil => exact books_silent rfl rfl rfl
  | cons turn rest ih => exact (books_act steady turn).trans (ih (steady.act turn))

/-! ## Rejections -/

/-- A step in which some submissions are rejected, each of which is counted and told. -/
structure Refuses (before : Surveyor) (refused : List (Job × Rejection))
    (step : Surveyor × List Signal) : Prop where
  counted : step.1.stats.rejected = before.stats.rejected + refused.length
  told : (step.2.filter fun signal => signal.ticket = none) = refused.map before.refusal

/-- Nothing is counted as rejected in a turn that submits nothing. -/
theorem rejected_act (steady : Steady surveyor) {turn : Turn}
    (submits : turn.submission? surveyor = none) :
    (turn.act surveyor).1.stats.rejected = surveyor.stats.rejected := by
  cases turn with
  | discover request surroundings => contradiction
  | register request surroundings => contradiction
  | cancel id => rfl
  | configure mode config surroundings now =>
      rw [Turn.act, stats_configure]
  | scan now => rfl
  | shutDown => rfl
  | fire now =>
      rw [Turn.act, fire_eq]
      simp only [Turn.submission?, periodic?] at submits
      split
      case isFalse => rfl
      case isTrue due =>
        rw [if_pos due] at submits
        split
        · rfl
        · split at submits
          case isTrue off => rw [if_pos off]; rfl
          case isFalse => contradiction
  | take now =>
      have taken := takes steady.orderly now
      simp only [Turn.act]
      generalize surveyor.take now = step at taken ⊢
      cases taken with
      | busy works => rfl
      | retires idle stopping => exact (drained_retire steady.orderly idle).rejected
      | rests idle nothing => rfl
      | begins ticket rest job idle queued found => exact rejected_settle _ _ _ _ _
  | resume now wake =>
      have resumed := resumes surveyor now wake
      simp only [Turn.act]
      generalize surveyor.resume now wake = step at resumed ⊢
      cases resumed with
      | settles ticket job activity works => exact rejected_settle _ _ _ _ _
      | rests => rfl

theorem refuses_act (reachable : Reachable surveyor) (steady : Steady surveyor) (turn : Turn) :
    Refuses surveyor (turn.refused surveyor) (turn.act surveyor) := by
  unfold Turn.refused
  cases submits : turn.submission? surveyor with
  | none =>
      have still := rejected_act steady submits
      obtain ⟨more, counted, told⟩ := (keeps_act steady.orderly turn).rejected
      have nobody : more = 0 := by omega
      rw [nobody, List.replicate_zero, kindsOf, List.map_eq_nil_iff] at told
      exact ⟨still, told⟩
  | some job =>
      cases rejects : turn.rejection? surveyor with
      | some rejection =>
          have rejected := rejected_of_rejection? reachable submits rejects
          constructor
          · rw [rejected.stats]
            rfl
          · rw [rejected.told]
            rfl
      | none =>
          have accepted := accepted_of_rejection? reachable submits rejects
          constructor
          · rw [accepted.stats]
            rfl
          · rw [accepted.told]
            split <;> rfl

theorem refuses_play (reachable : Reachable surveyor) (steady : Steady surveyor)
    (turns : List Turn) : Refuses surveyor (refusals turns surveyor) (play turns surveyor) := by
  induction turns generalizing surveyor with
  | nil => exact ⟨rfl, rfl⟩
  | cons turn rest ih =>
      have first := refuses_act reachable steady turn
      have later := ih (reachable.act turn) (steady.act turn)
      have same : (turn.act surveyor).1.refusal = surveyor.refusal := by
        funext refused
        simp only [refusal, signal, reporter, (keeps_act steady.orderly turn).discoverer]
      constructor
      · rw [play, later.counted, first.counted, refusals, List.length_append, Nat.add_assoc]
      · rw [play, List.filter_append, first.told, later.told, same, refusals, List.map_append]

/-! ## All requests -/

/-- How the statistics of a surveyor balance after some turns. -/
structure Conserved (surveyor : Surveyor) (turns : List Turn) : Prop where
  /-- every request that was accepted is pending or has ended -/
  balanced : (play turns surveyor).1.stats.submitted =
    (play turns surveyor).1.stats.finished + (play turns surveyor).1.stats.cancelled +
      (play turns surveyor).1.stats.failed + (play turns surveyor).1.pending.length
  /-- as many are counted as were accepted -/
  submitted : (play turns surveyor).1.stats.submitted = (acceptances turns surveyor).length
  /-- and those that ended in some way are those that were told so -/
  finished : (play turns surveyor).1.stats.finished = countTold .finished (play turns surveyor).2
  cancelled : (play turns surveyor).1.stats.cancelled =
    countTold .cancelled (play turns surveyor).2
  failed : (play turns surveyor).1.stats.failed = countTold .error (play turns surveyor).2
  /-- as many submissions are counted as were rejected -/
  rejected : (play turns surveyor).1.stats.rejected = (refusals turns surveyor).length
  /-- and each of them is told by one event of its own -/
  told : ((play turns surveyor).2.filter fun signal => signal.ticket = none) =
    (refusals turns surveyor).map surveyor.refusal

/-- Whatever turns are taken after the surveyor was started and whatever is answered in them,
its statistics balance. -/
theorem start_conserved (discoverer : Settings.Discoverer)
    (capacity initialDelay reportInterval : Nat) (isContainer : Bool) (now : Nat)
    (turns : List Turn) :
    Conserved (start discoverer capacity initialDelay reportInterval isContainer now) turns := by
  have reachable := Reachable.start discoverer capacity initialDelay reportInterval isContainer now
  have steady := steady_start discoverer capacity initialDelay reportInterval isContainer now
  generalize begins : start discoverer capacity initialDelay reportInterval isContainer now =
    surveyor at reachable steady
  have noStats : surveyor.stats = {} := by rw [← begins]; rfl
  have fromZero : surveyor.accepted = 0 := by rw [← begins]; rfl
  have nobody : surveyor.pending = [] := by rw [← begins]; rfl
  have books := books_play steady turns
  have refuses := refuses_play reachable steady turns
  have admits := admits_play steady.orderly turns
  have balanced : Balanced (play turns surveyor).1 :=
    books.balanced ⟨by rw [noStats, fromZero], by rw [noStats, nobody]; rfl⟩
  have ended : ∀ kind : ProgressKind, kind.isTerminal →
      (play turns surveyor).1.stats.ended kind = countTold kind (play turns surveyor).2 := by
    intro kind ends
    rw [books.ended kind ends, noStats]
    cases kind <;> exact Nat.zero_add _
  exact
    { balanced := balanced.pending
      submitted := by rw [balanced.accepted, admits.accepted, fromZero, Nat.zero_add]
      finished := ended .finished rfl
      cancelled := ended .cancelled rfl
      failed := ended .error rfl
      rejected := by rw [refuses.counted, noStats]; exact Nat.zero_add _
      told := refuses.told }

end FieldSurvey.Surveyor
