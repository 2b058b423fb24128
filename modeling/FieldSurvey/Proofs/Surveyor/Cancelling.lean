import FieldSurvey.Proofs.Survey.Noticing
import FieldSurvey.Proofs.Surveyor.Watch

/-!
# What becomes of cancelled requests

A request that was cancelled stays so as long as it is pending.  In every turn it is told either
nothing that ends it, or an ending as its last event; that it was cancelled is told only if it
was, and that it failed only if it was not.  The worker does not begin to hand over the results
of a request that was cancelled, nor does such a request start.
-/

namespace FieldSurvey.Surveyor

open Model (ProgressKind)
open Survey (Activity Belief CandidStep Ending Event Position Status Wake advance)

variable {surveyor before after : Surveyor} {ticket other : Nat} {job : Job}

/-- Whether the request of a ticket is pending and was cancelled. -/
def Cancelled (surveyor : Surveyor) (ticket : Nat) : Prop :=
  ∃ entry ∈ surveyor.pending, entry.ticket = ticket ∧ entry.job.isCancelled

/-- Whether the worker hands over the results of a request. -/
def Hands (surveyor : Surveyor) (ticket : Nat) : Prop :=
  ∃ batch, surveyor.handing = some (ticket, batch)

theorem Cancelled.mem_tickets (cancelled : surveyor.Cancelled ticket) :
    ticket ∈ surveyor.tickets := by
  obtain ⟨entry, member, rfl, -⟩ := cancelled
  exact List.mem_map_of_mem member

/-- A request that is pending is found under its ticket. -/
theorem job?_of_mem (orderly : Orderly surveyor) {entry : Entry}
    (member : entry ∈ surveyor.pending) : surveyor.job? entry.ticket = some entry.job := by
  obtain ⟨job, found⟩ := exists_job? (List.mem_map_of_mem member)
  obtain ⟨other, otherMember, same, rfl⟩ := mem_of_job? found
  have nodup : (surveyor.pending.map Entry.ticket).Nodup :=
    orderly.increasing.imp fun less => Nat.ne_of_lt less
  rw [found, List.inj_on_of_nodup_map nodup otherMember member same]

theorem isCancelled_iff (orderly : Orderly surveyor) :
    surveyor.isCancelled ticket = true ↔ surveyor.Cancelled ticket := by
  constructor
  · intro isCancelled
    obtain ⟨job, found, itsJob⟩ := (Option.any_eq_true _ _).mp isCancelled
    obtain ⟨entry, member, same, rfl⟩ := mem_of_job? found
    exact ⟨entry, member, same, itsJob⟩
  · rintro ⟨entry, member, rfl, isCancelled⟩
    rw [Surveyor.isCancelled, job?_of_mem orderly member]
    exact isCancelled

/-- A surveyor whose worker knows of cancellations, and which has cancelled everything once it is
stopping. -/
structure Aware (surveyor : Surveyor) : Prop where
  worker : ∀ ticket job activity, surveyor.worker = .running ticket job activity →
    activity.Candid (surveyor.isCancelled ticket)
  stopping : surveyor.isStopping → ∀ ticket ∈ surveyor.tickets, surveyor.Cancelled ticket

theorem aware_start (discoverer : Settings.Discoverer)
    (capacity initialDelay reportInterval : Nat) (isContainer : Bool) (now : Nat) :
    Aware (start discoverer capacity initialDelay reportInterval isContainer now) where
  worker _ _ _ works := by contradiction
  stopping isStopping := by contradiction

/-! ## How a request fares in a step -/

/-- A step in which a request stays pending. -/
structure Stays (before : Surveyor) (ticket : Nat) (step : Surveyor × List Signal) : Prop where
  pending : ticket ∈ step.1.tickets
  quiet : ∀ kind ∈ kindsOf (some ticket) step.2, ¬kind.isTerminal
  still : before.Cancelled ticket → step.1.Cancelled ticket
  free : before.Cancelled ticket → step.1.Hands ticket → before.Hands ticket

/-- A step in which a request leaves. -/
structure Leaves (before : Surveyor) (ticket : Nat) (step : Surveyor × List Signal) : Prop where
  gone : ticket ∉ step.1.tickets
  told : ∃ kinds last, kindsOf (some ticket) step.2 = kinds ++ [last] ∧
    (∀ kind ∈ kinds, ¬kind.isTerminal) ∧ last.isTerminal
  cancelled : .cancelled ∈ kindsOf (some ticket) step.2 → before.Cancelled ticket
  failed : .error ∈ kindsOf (some ticket) step.2 → ¬before.Cancelled ticket

/-- How a request that is pending fares in a step. -/
structure Fares (before : Surveyor) (ticket : Nat) (step : Surveyor × List Signal) : Prop where
  unstarted : before.Cancelled ticket → .started ∉ kindsOf (some ticket) step.2
  outcome : Stays before ticket step ∨ Leaves before ticket step

/-! ## Turns of others than the worker -/

/-- A step that spares every request that is pending. -/
structure Spares (before : Surveyor) (step : Surveyor × List Signal) : Prop where
  worker : step.1.worker = before.worker
  kept : ∀ ticket ∈ before.tickets, ticket ∈ step.1.tickets
  still : ∀ ticket, before.Cancelled ticket → step.1.Cancelled ticket
  told : ∀ signal ∈ step.2, signal.ticket = none ∨ signal.event.kind = .pending
  stopping : (before.isStopping → ∀ ticket ∈ before.tickets, before.Cancelled ticket) →
    step.1.isStopping → ∀ ticket ∈ step.1.tickets, step.1.Cancelled ticket

theorem Spares.trans {first second : Surveyor × List Signal} (front : Spares before first)
    (back : Spares first.1 second) : Spares before (second.1, first.2 ++ second.2) where
  worker := back.worker.trans front.worker
  kept ticket member := back.kept ticket (front.kept ticket member)
  still ticket cancelled := back.still ticket (front.still ticket cancelled)
  told signal member := by
    rcases List.mem_append.mp member with inFront | inBack
    · exact front.told signal inFront
    · exact back.told signal inBack
  stopping stopped := back.stopping (front.stopping stopped)

theorem spares_of_same (pending : after.pending = before.pending)
    (worker : after.worker = before.worker) (isStopping : after.isStopping = before.isStopping)
    {signals : List Signal} (told : ∀ signal ∈ signals, signal.ticket = none) :
    Spares before (after, signals) := by
  have tickets : after.tickets = before.tickets := by rw [tickets, pending, Surveyor.tickets]
  have cancelled : ∀ ticket, after.Cancelled ticket ↔ before.Cancelled ticket := by
    intro ticket
    rw [Cancelled, pending, Cancelled]
  exact
    { worker := worker
      kept := fun ticket member => tickets ▸ member
      still := fun ticket => (cancelled ticket).mpr
      told := fun signal member => Or.inl (told signal member)
      stopping := by
        intro stopped stops ticket member
        exact (cancelled ticket).mpr (stopped (isStopping ▸ stops) ticket (tickets ▸ member)) }

theorem spares_silently (pending : after.pending = before.pending)
    (worker : after.worker = before.worker) (isStopping : after.isStopping = before.isStopping) :
    Spares before (after, []) :=
  spares_of_same pending worker isStopping fun _ member => absurd member List.not_mem_nil

/-- Who is cancelled stays so, and so does who was. -/
theorem cancelled_cancelWhere {test : Job → Bool} :
    (surveyor.cancelWhere test).Cancelled ticket ↔
      ∃ entry ∈ surveyor.pending, entry.ticket = ticket ∧
        (entry.job.isCancelled ∨ test entry.job) := by
  have each : ∀ entry : Entry,
      (if test entry.job then { entry with job := entry.job.cancel } else entry).ticket =
          entry.ticket ∧
        ((if test entry.job then { entry with job := entry.job.cancel }
            else entry).job.isCancelled ↔
          entry.job.isCancelled ∨ test entry.job) := by
    intro entry
    by_cases picked : test entry.job <;> simp [picked, Job.cancel]
  simp only [Cancelled, cancelWhere, List.mem_map, exists_exists_and_eq_and, each]

theorem spares_cancelWhere (test : Job → Bool) (surveyor : Surveyor) :
    Spares surveyor (surveyor.cancelWhere test, []) := by
  have tickets := (alike_cancelWhere test surveyor).tickets
  have still : ∀ ticket, surveyor.Cancelled ticket →
      (surveyor.cancelWhere test).Cancelled ticket := by
    rintro ticket ⟨entry, member, same, isCancelled⟩
    exact cancelled_cancelWhere.mpr ⟨entry, member, same, Or.inl isCancelled⟩
  exact
    { worker := rfl
      kept := fun ticket member => tickets ▸ member
      still := still
      told := by simp
      stopping := fun stopped stops ticket member =>
        still ticket (stopped stops ticket (tickets ▸ member)) }

theorem spares_stop (surveyor : Surveyor) : Spares surveyor (surveyor.stop, []) := by
  have tickets := (alike_stop surveyor).tickets
  exact
    { worker := rfl
      kept := fun ticket member => tickets ▸ member
      still := (spares_cancelWhere (fun _ => true) surveyor).still
      told := by simp
      stopping := by
        intro _ _ ticket member
        obtain ⟨entry, inPending, same⟩ := List.mem_map.mp (tickets ▸ member)
        have all : (surveyor.cancelWhere fun _ => true).Cancelled ticket :=
          cancelled_cancelWhere.mpr ⟨entry, inPending, same, Or.inr rfl⟩
        exact all }

theorem spares_accept (isOpen : surveyor.isStopping = false) (job : Job) {signals : List Signal}
    (told : ∀ signal ∈ signals, signal.event.kind = .pending) :
    Spares surveyor (surveyor.accept job, signals) where
  worker := rfl
  kept ticket member := by
    rw [tickets_accept]
    exact List.mem_append_left _ member
  still := by
    rintro ticket ⟨entry, member, same, isCancelled⟩
    exact ⟨entry, List.mem_append_left _ member, same, isCancelled⟩
  told signal member := Or.inr (told signal member)
  stopping _ stops := by
    have stopping : surveyor.isStopping = true := stops
    rw [isOpen] at stopping
    contradiction

theorem spares_submit (surveyor : Surveyor) (job : Job) :
    Spares surveyor (surveyor.submit job).2 := by
  unfold submit
  split
  case h_1 rejection _ =>
    have told : ∀ signal ∈ [surveyor.signal none job (.failed rejection.reason)],
        signal.ticket = none := by
      intro signal member
      rw [List.mem_singleton.mp member]
      rfl
    have same : surveyor.reject.pending = surveyor.pending := rfl
    exact spares_of_same same rfl rfl told
  case h_2 free =>
    have isOpen : surveyor.isStopping = false := by
      unfold refusal? at free
      split at free
      · contradiction
      · rename_i goesOn
        exact Bool.eq_false_iff.mpr goesOn
    apply spares_accept isOpen
    intro told member
    split at member
    · contradiction
    · rw [List.mem_singleton.mp member]
      rfl

theorem composable_spares : Composable Spares where
  trans := Spares.trans
  timer _ _ := spares_silently rfl rfl rfl
  cancelWhere surveyor test := spares_cancelWhere test surveyor
  submit := spares_submit

theorem spares_act (turn : Turn) (others : ¬turn.isWork) (surveyor : Surveyor) :
    Spares surveyor (turn.act surveyor) := by
  cases turn with
  | discover request surroundings => exact spares_submit surveyor _
  | register request surroundings => exact spares_submit surveyor _
  | cancel id => exact spares_cancelWhere (hasId id) surveyor
  | configure mode config surroundings now =>
      exact spares_silently (pending_configure ..)
        (alike_configure mode config surroundings now surveyor).worker (isStopping_configure ..)
  | scan now =>
      have same : (surveyor.arm now 0).pending = surveyor.pending := rfl
      exact spares_silently same rfl rfl
  | shutDown => exact spares_stop surveyor
  | fire now => exact composable_spares.fire surveyor now
  | take now => exact absurd rfl others
  | resume now wake => exact absurd rfl others

/-- What is told in a step that spares a request. -/
theorem Spares.kind_of_mem {step : Surveyor × List Signal} (spares : Spares before step)
    {kind : ProgressKind} (member : kind ∈ kindsOf (some ticket) step.2) : kind = .pending := by
  obtain ⟨signal, inFilter, rfl⟩ := List.mem_map.mp member
  obtain ⟨inSignals, its⟩ := List.mem_filter.mp inFilter
  rcases spares.told signal inSignals with nobody | waits
  · rw [of_decide_eq_true its] at nobody
    contradiction
  · exact waits

theorem handing_of_worker_eq (same : after.worker = before.worker) :
    after.handing = before.handing := by
  rw [handing, handing, same]

theorem Spares.fares {step : Surveyor × List Signal} (spares : Spares before step)
    (pending : ticket ∈ before.tickets) : Fares before ticket step where
  unstarted _ started := by
    have waits := spares.kind_of_mem started
    contradiction
  outcome := Or.inl
    { pending := spares.kept ticket pending
      quiet := by
        intro kind member
        rw [spares.kind_of_mem member]
        exact Bool.false_ne_true
      still := spares.still ticket
      free := by
        rintro _ ⟨batch, hands⟩
        exact ⟨batch, handing_of_worker_eq spares.worker ▸ hands⟩ }

theorem Aware.spares {step : Surveyor × List Signal} (aware : Aware before)
    (spares : Spares before step) (orderly : Orderly before) (stillOrderly : Orderly step.1) :
    Aware step.1 where
  worker ticket job activity works := by
    obtain ⟨believes, noticed⟩ := aware.worker ticket job activity (spares.worker ▸ works)
    refine ⟨believes, fun notices => ?_⟩
    exact (isCancelled_iff stillOrderly).mpr
      (spares.still ticket ((isCancelled_iff orderly).mp (noticed notices)))
  stopping := spares.stopping aware.stopping

/-! ## Turns of the worker -/

theorem handing_of_running {activity : Activity}
    (works : surveyor.worker = .running ticket job activity) :
    surveyor.handing = activity.batch?.map fun batch => (ticket, batch) := by
  rw [handing, works]
  cases activity with
  | asking wait next => cases wait <;> rfl
  | askingUnlessCancelled wait next => rfl
  | probing phase scan pool next => rfl

theorem mem_tickets_finish {now : Nat} {ending : Ending} :
    other ∈ (surveyor.finish now ticket job ending).tickets ↔
      other ∈ surveyor.tickets ∧ other ≠ ticket := by
  rw [tickets, pending_finish]
  have closed := tickets_close surveyor ticket ending
  change List.map Entry.ticket (surveyor.pending.filter fun entry => entry.ticket != ticket) = _
    at closed
  rw [closed, List.mem_filter, bne_iff_ne]

theorem cancelled_finish (apart : other ≠ ticket) (cancelled : surveyor.Cancelled other)
    (now : Nat) (job : Job) (ending : Ending) :
    (surveyor.finish now ticket job ending).Cancelled other := by
  obtain ⟨entry, member, same, isCancelled⟩ := cancelled
  refine ⟨entry, ?_, same, isCancelled⟩
  rw [pending_finish]
  exact List.mem_filter.mpr ⟨member, bne_iff_ne.mpr (same ▸ apart)⟩

section Settling

variable {isCancelled : Bool} {belief : Belief} {step : List Event × Status}
  {already : List Signal}

/-- What becomes of a request that is carried out a step further. -/
theorem outcome_settle_self (begun : Begun surveyor ticket)
    (pending : surveyor.pending = before.pending)
    (candid : CandidStep isCancelled belief step)
    (agrees : isCancelled = true ↔ before.Cancelled ticket)
    (silent : kindsOf (some ticket) already = []) (now : Nat) (job : Job) :
    Stays before ticket ((surveyor.settle now ticket job step).1,
        already ++ (surveyor.settle now ticket job step).2) ∨
      Leaves before ticket ((surveyor.settle now ticket job step).1,
        already ++ (surveyor.settle now ticket job step).2) := by
  have told : kindsOf (some ticket) (already ++ (surveyor.settle now ticket job step).2) =
      step.1.map Event.kind := by
    rw [kindsOf_append, silent, signals_settle, kindsOf_map_signal_self, List.nil_append]
  cases candid with
  | @waits events activity quiet candid free =>
      left
      exact
        { pending := begun.mem_tickets
          quiet := by
            rw [told]
            exact fun kind member => Survey.not_isTerminal_of_mem_map quiet member
          still := by
            rintro ⟨entry, member, rest⟩
            exact ⟨entry, pending ▸ member, rest⟩
          free := by
            rintro cancelled ⟨batch, hands⟩
            have works : (surveyor.settle now ticket job (events, .waiting activity)).1.worker =
                .running ticket job activity := rfl
            rw [handing_of_running works, free (agrees.mpr cancelled)] at hands
            contradiction }
  | @ends events ending quiet warranted =>
      right
      exact
        { gone := not_mem_tickets_settle begun now job rfl
          told := by
            refine ⟨events.map Event.kind, ending.event.kind, ?_, ?_,
              Survey.isTerminal_event ending⟩
            · rw [told, List.map_append]
              rfl
            · exact fun kind member => Survey.not_isTerminal_of_mem_map quiet member
          cancelled := by
            intro member
            rw [told] at member
            have isLast := Survey.eq_of_mem_kinds quiet member rfl
            cases ending with
            | cancelled => exact agrees.mp warranted
            | finished records => contradiction
            | failed reason => contradiction
          failed := by
            intro member cancelled
            rw [told] at member
            have isLast := Survey.eq_of_mem_kinds quiet member rfl
            cases ending with
            | failed reason => exact absurd (agrees.mpr cancelled) (Bool.eq_false_iff.mp warranted)
            | finished records => contradiction
            | cancelled => contradiction }

/-- The others fare as they did. -/
theorem fares_settle_other
    (pending : surveyor.pending = before.pending) (apart : other ≠ ticket)
    (member : other ∈ before.tickets)
    (waits : ∀ kind ∈ kindsOf (some other) already, kind = .pending) (now : Nat) (job : Job)
    (step : List Event × Status) :
    Fares before other ((surveyor.settle now ticket job step).1,
      already ++ (surveyor.settle now ticket job step).2) := by
  have told : kindsOf (some other) (already ++ (surveyor.settle now ticket job step).2) =
      kindsOf (some other) already := by
    rw [kindsOf_append, signals_settle, kindsOf_map_signal_other (by simpa using apart),
      List.append_nil]
  have was : other ∈ surveyor.tickets := by
    rw [tickets, pending]
    exact member
  constructor
  · intro _ started
    rw [told] at started
    have isPending := waits _ started
    contradiction
  · left
    exact
      { pending := by
          rcases step with ⟨events, activity | ending⟩
          · exact was
          · exact mem_tickets_finish.mpr ⟨was, apart⟩
        quiet := by
          intro kind inKinds
          rw [told] at inKinds
          rw [waits kind inKinds]
          exact Bool.false_ne_true
        still := by
          rintro ⟨entry, inPending, rest⟩
          have cancelled : surveyor.Cancelled other := ⟨entry, pending ▸ inPending, rest⟩
          rcases step with ⟨events, activity | ending⟩
          · exact cancelled
          · exact cancelled_finish apart cancelled now job ending
        free := by
          rintro _ ⟨batch, hands⟩
          obtain ⟨itsJob, next, works⟩ := exists_of_handing hands
          rcases step with ⟨events, activity | ending⟩
          · obtain ⟨rfl, -, -⟩ := Worker.running.inj works
            contradiction
          · have idle : (surveyor.finish now ticket job ending).worker = .idle :=
              (alike_finish surveyor now ticket job ending).worker
            rw [settle, idle] at works
            contradiction }

/-- The worker still knows of cancellations. -/
theorem aware_settle
    (candid : CandidStep (surveyor.isCancelled ticket) belief step)
    (stopping : surveyor.isStopping → ∀ ticket ∈ surveyor.tickets, surveyor.Cancelled ticket)
    (now : Nat) (job : Job) : Aware (surveyor.settle now ticket job step).1 := by
  cases candid with
  | @waits events activity quiet candid free =>
      constructor
      · intro other twin sameActivity works
        obtain ⟨rfl, -, rfl⟩ := Worker.running.inj works
        exact candid
      · exact stopping
  | @ends events ending quiet warranted =>
      have idle : (surveyor.finish now ticket job ending).worker = .idle :=
        (alike_finish surveyor now ticket job ending).worker
      constructor
      · intro other twin activity works
        rw [settle, idle] at works
        contradiction
      · intro stops other member
        rw [settle, isStopping_finish] at stops
        obtain ⟨was, apart⟩ := mem_tickets_finish.mp member
        exact cancelled_finish apart (stopping stops other was) now job ending

end Settling

/-- A step in which nothing happens. -/
theorem fares_still (pending : ticket ∈ surveyor.tickets) :
    Fares surveyor ticket (surveyor, []) where
  unstarted _ := List.not_mem_nil
  outcome := Or.inl
    { pending := pending
      quiet := fun _ member => absurd member List.not_mem_nil
      still := id
      free := fun _ => id }

theorem fares_retire (orderly : Orderly surveyor) (aware : Aware surveyor)
    (idle : surveyor.worker = .idle) (stopping : surveyor.isStopping)
    (pending : other ∈ surveyor.tickets) : Fares surveyor other surveyor.retire := by
  have drained := drained_retire orderly idle
  have told : kindsOf (some other) surveyor.retire.2 = [.cancelled] := by
    rw [drained.told, if_pos (tickets_eq_queue orderly idle ▸ pending)]
  constructor
  · rw [told]
    simp
  · right
    exact
      { gone := by simp [tickets, drained.pending]
        told := ⟨[], .cancelled, told, by simp, rfl⟩
        cancelled := fun _ => aware.stopping stopping other pending
        failed := by
          rw [told]
          simp }

theorem aware_retire (orderly : Orderly surveyor) (idle : surveyor.worker = .idle) :
    Aware surveyor.retire.1 := by
  have drained := drained_retire orderly idle
  constructor
  · intro ticket job activity works
    rw [drained.worker] at works
    contradiction
  · intro _ ticket member
    simp [tickets, drained.pending] at member

section Beginning

variable {rest : List Nat}

/-- The first step of a run is candid. -/
theorem candid_begin (now : Moment) (job : Job) (surveyor : Surveyor) :
    CandidStep job.isCancelled .unsure
      (advance now.timestamp job.isCancelled (surveyor.survey job).run) :=
  Survey.advance_candid now.timestamp (Survey.believes_run _) trivial Bool.false_ne_true

theorem isCancelled_of_job? (found : surveyor.job? ticket = some job) :
    surveyor.isCancelled ticket = job.isCancelled := by
  rw [isCancelled, found]
  rfl

theorem fares_begin (orderly : Orderly surveyor) (now : Moment)
    (idle : surveyor.worker = .idle) (queued : surveyor.queue = ticket :: rest)
    (found : surveyor.job? ticket = some job) (pending : other ∈ surveyor.tickets) :
    Fares surveyor other (Surveyor.begin now ticket job { surveyor with queue := rest }) := by
  have begun := Begun.of_taken orderly idle queued
  have same : Surveyor.pending { surveyor with queue := rest } = surveyor.pending := rfl
  by_cases isSelf : other = ticket
  · subst isSelf
    have silent : kindsOf (some other) (Surveyor.positions other { surveyor with queue := rest }) =
        [] := by
      apply kindsOf_positions_of_not_mem begun
      rintro waiting inQueue ⟨⟩
      exact begun.not_mem_queue inQueue
    have agrees : job.isCancelled = true ↔ surveyor.Cancelled other := by
      rw [← isCancelled_of_job? found]
      exact isCancelled_iff orderly
    constructor
    · intro cancelled
      simp only [Surveyor.begin]
      rw [kindsOf_append, silent, signals_settle, kindsOf_map_signal_self,
        agrees.mpr cancelled, Survey.advance_run_of_cancelled]
      simp [Event.kind]
    · exact outcome_settle_self begun same (candid_begin now job _) agrees silent now.millis job
  · have waits : ∀ kind ∈ kindsOf (some other)
        (Surveyor.positions ticket { surveyor with queue := rest }), kind = .pending := by
      intro kind member
      obtain ⟨signal, inFilter, rfl⟩ := List.mem_map.mp member
      exact (mem_positions begun (List.mem_filter.mp inFilter).1).1
    exact fares_settle_other same isSelf pending waits now.millis job _

theorem aware_begin (aware : Aware surveyor) (now : Moment)
    (found : surveyor.job? ticket = some job) :
    Aware (Surveyor.begin now ticket job { surveyor with queue := rest }).1 := by
  have same : job.isCancelled = isCancelled { surveyor with queue := rest } ticket :=
    (isCancelled_of_job? found).symm
  have candid := candid_begin now job { surveyor with queue := rest }
  rw [Surveyor.begin, same]
  rw [same] at candid
  exact aware_settle candid aware.stopping now.millis job

end Beginning

theorem fares_take (orderly : Orderly surveyor) (aware : Aware surveyor) (now : Moment)
    (pending : other ∈ surveyor.tickets) : Fares surveyor other (surveyor.take now) := by
  have taken := takes orderly now
  generalize surveyor.take now = step at taken ⊢
  cases taken with
  | busy works => exact fares_still pending
  | retires idle stopping => exact fares_retire orderly aware idle stopping pending
  | rests idle nothing => exact fares_still pending
  | begins ticket rest job idle queued found =>
      exact fares_begin orderly now idle queued found pending

theorem aware_take (orderly : Orderly surveyor) (aware : Aware surveyor) (now : Moment) :
    Aware (surveyor.take now).1 := by
  have taken := takes orderly now
  generalize surveyor.take now = step at taken ⊢
  cases taken with
  | busy works => exact aware
  | retires idle stopping => exact aware_retire orderly idle
  | rests idle nothing => exact aware
  | begins ticket rest job idle queued found => exact aware_begin aware now found

/-- A worker that is woken for nothing goes on waiting. -/
theorem settle_still {activity : Activity}
    (works : surveyor.worker = .running ticket job activity) (now : Nat) :
    surveyor.settle now ticket job ([], .waiting activity) = (surveyor, []) := by
  simp only [settle, List.map_nil, ← works]

theorem fares_resume (orderly : Orderly surveyor) (working : Working surveyor)
    (aware : Aware surveyor) (now : Moment) (wake : Wake) (pending : other ∈ surveyor.tickets) :
    Fares surveyor other (surveyor.resume now wake) := by
  have resumed := resumes surveyor now wake
  generalize surveyor.resume now wake = step at resumed ⊢
  cases resumed with
  | settles ticket job activity works =>
      have begun := Begun.of_orderly orderly works
      rcases Survey.resume_candid now.timestamp (aware.worker ticket job activity works) wake with
        still | candid
      · rw [still, settle_still works]
        exact fares_still pending
      · by_cases isSelf : other = ticket
        · subst isSelf
          constructor
          · intro _ started
            obtain ⟨isScanning, position, follows⟩ := working other job activity works
            rw [signals_settle, kindsOf_map_signal_self] at started
            obtain ⟨event, member, isStarted⟩ := List.mem_map.mp started
            exact (Survey.underway_of_resume now.timestamp (surveyor.isCancelled other) wake follows
              event member).2 isStarted
          · exact outcome_settle_self begun rfl candid (isCancelled_iff orderly)
              (kindsOf_nil (some other)) now.millis job
        · have silent : ∀ kind ∈ kindsOf (some other) [], kind = ProgressKind.pending := by simp
          exact fares_settle_other rfl isSelf pending silent now.millis job _
  | rests => exact fares_still pending

theorem aware_resume (aware : Aware surveyor) (now : Moment) (wake : Wake) :
    Aware (surveyor.resume now wake).1 := by
  have resumed := resumes surveyor now wake
  generalize surveyor.resume now wake = step at resumed ⊢
  cases resumed with
  | settles ticket job activity works =>
      rcases Survey.resume_candid now.timestamp (aware.worker ticket job activity works) wake with
        still | candid
      · rw [still, settle_still works]
        exact aware
      · exact aware_settle candid aware.stopping now.millis job
  | rests => exact aware

/-! ## Turns -/

/-- What holds of a surveyor whatever turns were taken. -/
structure Steady (surveyor : Surveyor) : Prop where
  orderly : Orderly surveyor
  working : Working surveyor
  aware : Aware surveyor

theorem Steady.act (steady : Steady surveyor) (turn : Turn) : Steady (turn.act surveyor).1 where
  orderly := (keeps_act steady.orderly turn).orderly
  working := working_act steady.orderly steady.working turn
  aware := by
    by_cases works : turn.isWork
    · cases turn with
      | take now => exact aware_take steady.orderly steady.aware now
      | resume now wake => exact aware_resume steady.aware now wake
      | _ => contradiction
    · exact steady.aware.spares (spares_act turn works surveyor) steady.orderly
        (keeps_act steady.orderly turn).orderly

theorem Steady.play (steady : Steady surveyor) (turns : List Turn) :
    Steady (play turns surveyor).1 := by
  induction turns generalizing surveyor with
  | nil => exact steady
  | cons turn rest ih => exact ih (steady.act turn)

theorem steady_start (discoverer : Settings.Discoverer)
    (capacity initialDelay reportInterval : Nat) (isContainer : Bool) (now : Nat) :
    Steady (start discoverer capacity initialDelay reportInterval isContainer now) where
  orderly := orderly_start discoverer capacity initialDelay reportInterval isContainer now
  working := working_start discoverer capacity initialDelay reportInterval isContainer now
  aware := aware_start discoverer capacity initialDelay reportInterval isContainer now

theorem Steady.fares (steady : Steady surveyor) (turn : Turn)
    (pending : ticket ∈ surveyor.tickets) : Fares surveyor ticket (turn.act surveyor) := by
  by_cases works : turn.isWork
  · cases turn with
    | take now => exact fares_take steady.orderly steady.aware now pending
    | resume now wake =>
        exact fares_resume steady.orderly steady.working steady.aware now wake pending
    | _ => contradiction
  · exact (spares_act turn works surveyor).fares pending

end FieldSurvey.Surveyor
