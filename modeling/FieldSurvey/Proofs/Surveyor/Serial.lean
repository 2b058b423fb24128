import FieldSurvey.Proofs.Surveyor.Watch

/-!
# One request at a time, in order

The requests that are pending are the one that runs and those that are queued, in the order
in which they were submitted.  They start in that order and one at a time, and a request that
is told its place is told how many requests are in front of it.
-/

namespace FieldSurvey.Surveyor

open Model (ProgressKind)
open Survey (Ending Event Position Status StepFrom)

/-! ## The order of submission -/

/-- What the timer submits when it fires. -/
def periodic? (surveyor : Surveyor) : Option Job :=
  if surveyor.standing.plan.mode = .off then none else some surveyor.standing.renew.asScan

/-- The request that a turn submits, if it submits one. -/
def Turn.submission? : Turn → Surveyor → Option Job
  | discover request surroundings, _ => some (.ofRequest request surroundings)
  | register request surroundings, _ => some (.ofRequest request.toRequest surroundings)
  | fire now, surveyor => if surveyor.timer.isDue now then surveyor.periodic? else none
  | _, _ => none

/-- What is accepted of a submission. -/
def admitted (surveyor : Surveyor) (submission : Option Job) : List Job :=
  if surveyor.refusal? = none then submission.toList else []

/-- The requests that are accepted in a sequence of turns, in the order in which they are
submitted. -/
def acceptances : List Turn → Surveyor → List Job
  | [], _ => []
  | turn :: rest, surveyor =>
    surveyor.admitted (turn.submission? surveyor) ++ acceptances rest (turn.act surveyor).1

/-- The requests that are pending as they were submitted, with their tickets. -/
def submitted (surveyor : Surveyor) : List (Job × Nat) :=
  surveyor.pending.map fun entry => (entry.job.renew, entry.ticket)

/-- A step in which some requests are accepted, which join the end of those that are pending.
Others may leave. -/
structure Admits (before : Surveyor) (jobs : List Job) (after : Surveyor) : Prop where
  accepted : after.accepted = before.accepted + jobs.length
  submitted : after.submitted.Sublist (before.submitted ++ jobs.zipIdx before.accepted)

variable {surveyor before middle after : Surveyor} {ticket : Nat} {job : Job}

theorem Admits.trans {first second : List Job} (front : Admits before first middle)
    (back : Admits middle second after) : Admits before (first ++ second) after where
  accepted := by rw [back.accepted, front.accepted, List.length_append, Nat.add_assoc]
  submitted := by
    have all := back.submitted.trans (front.submitted.append_right _)
    rwa [front.accepted, List.append_assoc, ← List.zipIdx_append] at all

/-- In a step that accepts no request some may leave. -/
theorem admits_none (accepted : after.accepted = before.accepted)
    (left : after.submitted.Sublist before.submitted) : Admits before [] after where
  accepted := accepted
  submitted := by simpa using left

theorem submitted_cancelWhere (test : Job → Bool) (surveyor : Surveyor) :
    (surveyor.cancelWhere test).submitted = surveyor.submitted := by
  simp only [submitted, cancelWhere, List.map_map]
  apply List.map_congr_left
  intro entry _
  by_cases picked : test entry.job <;> simp [picked, Job.cancel, Job.renew]

@[simp]
theorem admitted_none (surveyor : Surveyor) : surveyor.admitted none = [] := by
  simp [admitted]

theorem admitted_of_isStopping (stopping : surveyor.isStopping) (submission : Option Job) :
    surveyor.admitted submission = [] := by
  rw [admitted, refusal?_of_isStopping stopping, if_neg (Option.some_ne_none _)]

theorem admits_submit (surveyor : Surveyor) (isNew : job.renew = job) :
    Admits surveyor (surveyor.admitted (some job)) (surveyor.submit job).2.1 := by
  unfold submit admitted
  cases surveyor.refusal? with
  | some rejection => exact admits_none rfl (List.Sublist.refl _)
  | none =>
      constructor
      · rfl
      · simp [submitted, accept, isNew]

theorem admits_schedule (surveyor : Surveyor) (now : Nat) :
    Admits surveyor (surveyor.admitted surveyor.periodic?) (surveyor.schedule now).1 := by
  have cancelled : Admits surveyor [] (surveyor.cancelWhere Job.isScan) :=
    admits_none rfl (by rw [submitted_cancelWhere])
  have same : (surveyor.cancelWhere Job.isScan).standing = surveyor.standing := rfl
  unfold schedule periodic?
  dsimp only
  rw [same]
  split
  case isTrue off => simpa using cancelled
  case isFalse on =>
    have isNew : surveyor.standing.renew.asScan.renew = surveyor.standing.renew.asScan := rfl
    have all := cancelled.trans (admits_submit (surveyor.cancelWhere Job.isScan) isNew)
    split
    all_goals
      rename_i equal
      rw [equal] at all
      exact ⟨all.accepted, all.submitted⟩

theorem admits_fire (surveyor : Surveyor) (now : Nat) :
    Admits surveyor
      (surveyor.admitted (if surveyor.timer.isDue now then surveyor.periodic? else none))
      (surveyor.fire now).1 := by
  unfold fire
  split
  · dsimp only
    split
    case isTrue stopping =>
      rw [admitted_of_isStopping stopping]
      exact admits_none rfl (List.Sublist.refl _)
    case isFalse =>
      have scheduled := admits_schedule { surveyor with timer := surveyor.timer.fired } now
      exact ⟨scheduled.accepted, scheduled.submitted⟩
  · rw [admitted_none]
    exact admits_none rfl (List.Sublist.refl _)

/-! ## Requests leave -/

theorem submitted_close (surveyor : Surveyor) (ticket : Nat) (ending : Ending) :
    (surveyor.close ticket ending).submitted.Sublist surveyor.submitted :=
  List.filter_sublist.map _

theorem submitted_settle (surveyor : Surveyor) (now ticket : Nat) (job : Job)
    (step : List Event × Status) :
    (surveyor.settle now ticket job step).1.submitted.Sublist surveyor.submitted := by
  rcases step with ⟨events, activity | ending⟩
  · exact List.Sublist.refl _
  · have closed := submitted_close surveyor ticket ending
    simp only [settle, finish]
    split <;> exact closed

theorem submitted_take (orderly : Orderly surveyor) (now : Moment) :
    (surveyor.take now).1.submitted.Sublist surveyor.submitted := by
  have taken := takes orderly now
  generalize surveyor.take now = step at taken ⊢
  cases taken with
  | busy works => exact List.Sublist.refl _
  | retires idle stopping =>
      rw [submitted, (drained_retire orderly idle).pending]
      exact List.nil_sublist _
  | rests idle nothing => exact List.Sublist.refl _
  | begins ticket rest job idle queued found =>
      exact submitted_settle { surveyor with queue := rest } _ _ _ _

theorem submitted_resume (surveyor : Surveyor) (now : Moment) (wake : Survey.Wake) :
    (surveyor.resume now wake).1.submitted.Sublist surveyor.submitted := by
  have resumed := resumes surveyor now wake
  generalize surveyor.resume now wake = step at resumed ⊢
  cases resumed with
  | settles ticket job activity works => exact submitted_settle surveyor _ _ _ _
  | rests => exact List.Sublist.refl _

/-! ## Turns -/

theorem admits_act (orderly : Orderly surveyor) (turn : Turn) :
    Admits surveyor (surveyor.admitted (turn.submission? surveyor)) (turn.act surveyor).1 := by
  have unchanged : surveyor.submitted.Sublist surveyor.submitted := List.Sublist.refl _
  cases turn with
  | discover request surroundings => exact admits_submit surveyor rfl
  | register request surroundings => exact admits_submit surveyor rfl
  | fire now => exact admits_fire surveyor now
  | cancel id =>
      have same := submitted_cancelWhere (hasId id) surveyor
      exact admitted_none surveyor ▸ admits_none rfl (same ▸ unchanged)
  | configure mode config surroundings now =>
      have alike := alike_configure mode config surroundings now surveyor
      have same : (surveyor.configure mode config surroundings now).submitted =
          surveyor.submitted := by
        rw [submitted, pending_configure, submitted]
      exact admitted_none surveyor ▸ admits_none alike.accepted (same ▸ unchanged)
  | scan now => exact admitted_none surveyor ▸ admits_none rfl unchanged
  | shutDown =>
      have same := submitted_cancelWhere (fun _ => true) surveyor
      exact admitted_none surveyor ▸ admits_none rfl (same ▸ unchanged)
  | take now =>
      exact admitted_none surveyor ▸
        admits_none (accepted_take orderly now) (submitted_take orderly now)
  | resume now wake =>
      exact admitted_none surveyor ▸
        admits_none (accepted_resume surveyor now wake) (submitted_resume surveyor now wake)

theorem admits_play (orderly : Orderly surveyor) (turns : List Turn) :
    Admits surveyor (acceptances turns surveyor) (play turns surveyor).1 := by
  induction turns generalizing surveyor with
  | nil => exact admits_none rfl (List.Sublist.refl _)
  | cons turn rest ih => exact (admits_act orderly turn).trans (ih (keeps_act orderly turn).orderly)

/-! ## Places -/

/-- Whether each request that is told its place has that many others in front of it.  One
that was pending before is told its place then, and one that is accepted is told its place
afterwards. -/
def Placed (before : Surveyor) (step : Surveyor × List Signal) : Prop :=
  ∀ signal ∈ step.2, ∀ ahead, signal.event = .pending ahead →
    ∃ ticket, signal.ticket = some ticket ∧
      if ticket ∈ before.tickets then before.tickets[ahead]? = some ticket
      else step.1.tickets[ahead]? = some ticket

theorem placed_nil (before after : Surveyor) : Placed before (after, []) :=
  fun _ member => absurd member List.not_mem_nil

theorem placed_of_not_pending {step : Surveyor × List Signal}
    (apart : ∀ signal ∈ step.2, signal.event.kind ≠ .pending) : Placed before step := by
  intro signal member ahead same
  exact absurd (congrArg Event.kind same) (apart signal member)

theorem Placed.append {front back : List Signal} (first : Placed before (after, front))
    (second : Placed before (after, back)) : Placed before (after, front ++ back) := by
  intro signal member
  rcases List.mem_append.mp member with inFront | inBack
  · exact first signal inFront
  · exact second signal inBack

theorem Placed.congr {last : Surveyor} {signals : List Signal}
    (placed : Placed middle (after, signals)) (front : Alike before middle)
    (back : Alike after last) : Placed before (last, signals) := by
  unfold Placed at placed ⊢
  rwa [back.tickets, ← front.tickets]

theorem placed_submit (orderly : Orderly surveyor) (job : Job) :
    Placed surveyor (surveyor.submit job).2 := by
  unfold submit
  split
  case h_1 =>
    apply placed_of_not_pending
    intro told member
    rw [List.mem_singleton.mp member]
    simp [signal, Event.kind]
  case h_2 =>
    dsimp only
    split
    · exact placed_nil _ _
    · intro signal member ahead same
      rw [List.mem_singleton.mp member] at same ⊢
      cases same
      have isNew : surveyor.accepted ∉ surveyor.tickets :=
        fun inTickets => Nat.lt_irrefl _ (orderly.below _ inTickets)
      refine ⟨surveyor.accepted, rfl, ?_⟩
      rw [if_neg isNew, tickets_accept]
      simp [tickets]

theorem placed_schedule (orderly : Orderly surveyor) (now : Nat) :
    Placed surveyor (surveyor.schedule now) := by
  have cancelled := alike_cancelWhere Job.isScan surveyor
  unfold schedule
  dsimp only
  split
  · exact placed_nil _ _
  · have submitted := placed_submit (cancelled.orderly orderly)
      (surveyor.cancelWhere Job.isScan).standing.renew.asScan
    split
    · rename_i equal
      rw [equal] at submitted
      exact submitted.congr cancelled ⟨rfl, rfl, rfl, rfl, rfl⟩
    · rename_i equal
      rw [equal] at submitted
      exact submitted.congr cancelled (alike_arm _ _ _)

theorem placed_fire (orderly : Orderly surveyor) (now : Nat) :
    Placed surveyor (surveyor.fire now) := by
  have fired : Alike surveyor { surveyor with timer := surveyor.timer.fired } :=
    ⟨rfl, rfl, rfl, rfl, rfl⟩
  unfold fire
  split
  · dsimp only
    split
    · exact placed_nil _ _
    · exact (placed_schedule (fired.orderly orderly) now).congr fired ⟨rfl, rfl, rfl, rfl, rfl⟩
  · exact placed_nil _ _

/-- Those who wait behind the first request have it and those before them in front. -/
theorem getElem?_of_mem_positions (begun : Begun surveyor ticket) {signal : Signal}
    (member : signal ∈ surveyor.positions ticket) {ahead : Nat}
    (same : signal.event = .pending ahead) :
    ∃ other, signal.ticket = some other ∧ surveyor.tickets[ahead]? = some other := by
  have queued : (surveyor.pending.filter fun entry => entry.ticket != ticket).map Entry.ticket =
      surveyor.queue := tickets_released begun .cancelled
  obtain ⟨⟨entry, index⟩, inList, told⟩ := List.mem_filterMap.mp member
  simp only at told
  split at told
  · contradiction
  · cases told
    cases same
    have place := List.mem_zipIdx_iff_getElem?.mp inList
    refine ⟨entry.ticket, rfl, ?_⟩
    rw [begun.tickets_eq, List.getElem?_cons_succ, ← queued, List.getElem?_map, place]
    rfl

theorem placed_settle (surveyor : Surveyor) (now ticket : Nat) (job : Job)
    {step : List Event × Status} (apart : ∀ event ∈ step.1, event.kind ≠ .pending) :
    Placed before (surveyor.settle now ticket job step) := by
  apply placed_of_not_pending
  intro signal member
  rw [signals_settle] at member
  obtain ⟨event, inEvents, rfl⟩ := List.mem_map.mp member
  exact apart event inEvents

theorem placed_take (orderly : Orderly surveyor) (now : Moment) :
    Placed surveyor (surveyor.take now) := by
  have taken := takes orderly now
  generalize surveyor.take now = step at taken ⊢
  cases taken with
  | busy works => exact placed_nil _ _
  | retires idle stopping =>
      apply placed_of_not_pending
      intro signal member
      rw [(cancelled_of_mem_drain member).2]
      simp
  | rests idle nothing => exact placed_nil _ _
  | begins ticket rest job idle queued found =>
      apply Placed.append
      · intro signal member ahead same
        obtain ⟨other, its, place⟩ :=
          getElem?_of_mem_positions (Begun.of_taken orderly idle queued) member same
        have pending : other ∈ surveyor.tickets := List.mem_of_getElem? place
        exact ⟨other, its, by rwa [if_pos pending]⟩
      · exact placed_settle { surveyor with queue := rest } now.millis ticket job
          (Survey.not_pending_of_advance_run now.timestamp job.isCancelled _)

theorem placed_resume (working : Working surveyor) (now : Moment) (wake : Survey.Wake) :
    Placed surveyor (surveyor.resume now wake) := by
  have resumed := resumes surveyor now wake
  generalize surveyor.resume now wake = step at resumed ⊢
  cases resumed with
  | settles ticket job activity works =>
      obtain ⟨isScanning, position, follows⟩ := working ticket job activity works
      have underway := Survey.underway_of_resume now.timestamp (surveyor.isCancelled ticket) wake
        follows
      exact placed_settle surveyor now.millis ticket job fun event member =>
        (underway event member).1
  | rests => exact placed_nil _ _

theorem placed_act (orderly : Orderly surveyor) (working : Working surveyor) (turn : Turn) :
    Placed surveyor (turn.act surveyor) := by
  cases turn with
  | discover request surroundings => exact placed_submit orderly _
  | register request surroundings => exact placed_submit orderly _
  | fire now => exact placed_fire orderly now
  | take now => exact placed_take orderly now
  | resume now wake => exact placed_resume working now wake
  | _ => exact placed_nil _ _

/-! ## Serial runs -/

/-- How requests come to run in a sequence of turns. -/
structure Serial (surveyor : Surveyor) (turns : List Turn) : Prop where
  /-- the request that runs is followed by those in the queue -/
  pending : (play turns surveyor).1.tickets =
    (play turns surveyor).1.running ++ (play turns surveyor).1.queue
  /-- they are pending in the order in which they were submitted, each with its own ticket -/
  submitted : (play turns surveyor).1.submitted.Sublist (acceptances turns surveyor).zipIdx
  /-- and they start in this order -/
  started : (startings (play turns surveyor).2).Pairwise (· < ·)
  /-- until a request that has started ends, nothing is told of others but that they wait or
  were rejected -/
  alone : ∀ front first middle back, (play turns surveyor).2 = front ++ first :: middle ++ back →
    first.event = .started → ∀ ticket, first.ticket = some ticket →
    (∀ signal ∈ middle, signal.ticket = some ticket → ¬signal.event.kind.isTerminal) →
    ∀ signal ∈ middle, signal.ticket ≠ some ticket →
      signal.event.kind = .pending ∨ signal.ticket = none ∧ signal.event.kind = .error
  /-- whoever is told its place has that many requests in front of it -/
  placed : ∀ earlier turn later, turns = earlier ++ turn :: later →
    Placed (play earlier surveyor).1 (turn.act (play earlier surveyor).1)

theorem Watch.SeesAll.alone_of_started {watch last : Watch} {front middle back : List Signal}
    {first : Signal} (all : watch.SeesAll (front ++ first :: middle ++ back) last)
    (starts : first.event = .started) (its : first.ticket = some ticket)
    (unended : ∀ signal ∈ middle, signal.ticket = some ticket → ¬signal.event.kind.isTerminal) :
    ∀ signal ∈ middle, signal.ticket ≠ some ticket →
      signal.event.kind = .pending ∨ signal.ticket = none ∧ signal.event.kind = .error := by
  obtain ⟨_, inFront, -⟩ := all.split
  obtain ⟨_, -, between, sees, onward⟩ := inFront.split
  have running : between.current = some ticket := by
    cases sees with
    | started same => exact same.symm.trans its
    | rejected nobody => simp [nobody] at its
    | pending same waits => simp [starts, Event.kind] at waits
    | wentOn same runs goesOn notAgain => simp [starts, Event.kind] at notAgain
    | ended same runs ends => simp [starts, Event.kind, ProgressKind.isTerminal] at ends
    | dropped same idle isCancelled => simp [starts, Event.kind] at isCancelled
  exact onward.alone running unended

theorem working_play (orderly : Orderly surveyor) (working : Working surveyor)
    (turns : List Turn) : Working (play turns surveyor).1 := by
  induction turns generalizing surveyor with
  | nil => exact working
  | cons turn rest ih =>
      exact ih (keeps_act orderly turn).orderly (working_act orderly working turn)

/-- Whatever turns are taken after the surveyor was started, its requests run one at a time in
the order in which they were submitted. -/
theorem start_serial (discoverer : Settings.Discoverer)
    (capacity initialDelay reportInterval : Nat) (isContainer : Bool) (now : Nat)
    (turns : List Turn) :
    Serial (start discoverer capacity initialDelay reportInterval isContainer now) turns := by
  have orderly := orderly_start discoverer capacity initialDelay reportInterval isContainer now
  have working := working_start discoverer capacity initialDelay reportInterval isContainer now
  have watched := watched_start discoverer capacity initialDelay reportInterval isContainer now
  generalize begins : start discoverer capacity initialDelay reportInterval isContainer now =
    surveyor at orderly working watched
  obtain ⟨last, all, -⟩ := serves_play orderly working turns {} watched
  have fromZero : surveyor.accepted = 0 := by rw [← begins]; rfl
  have noneYet : surveyor.submitted = [] := by rw [← begins]; rfl
  exact
    { pending := (keeps_play orderly turns).orderly.tickets_eq
      submitted := by
        have admitted := (admits_play orderly turns).submitted
        rwa [noneYet, fromZero, List.nil_append] at admitted
      started := all.startings_increase.1
      alone := by
        intro front first middle back split starts ticket its unended
        rw [split] at all
        exact all.alone_of_started starts its unended
      placed := by
        intro earlier turn later _
        exact placed_act (keeps_play orderly earlier).orderly (working_play orderly working earlier)
          turn }

end FieldSurvey.Surveyor
