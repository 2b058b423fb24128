import FieldSurvey.Proofs.Surveyor.Order

/-!
# Order when requests are carried out

The worker takes the first request of the queue, carries it out step by step and lets it
go.  What it tells of the request follows the protocol; what it tells of the others is how
many are ahead of them.  A worker that stops cancels what is left in the queue.
-/

namespace FieldSurvey.Surveyor

open Model (ProgressKind)
open Survey (Activity Ending Event Position Status StepFrom Wake advance courseMonitor EndsIn)

variable {surveyor : Surveyor} {ticket other : Nat} {job : Job} {isScanning : Bool}

theorem mem_of_job? (found : surveyor.job? ticket = some job) :
    ∃ entry ∈ surveyor.pending, entry.ticket = ticket ∧ entry.job = job := by
  obtain ⟨entry, first, same⟩ := Option.map_eq_some_iff.mp found
  have picked := List.find?_some first
  exact ⟨entry, List.mem_of_find?_eq_some first, eq_of_beq picked, same⟩

theorem exists_job? (member : ticket ∈ surveyor.tickets) :
    ∃ job, surveyor.job? ticket = some job := by
  obtain ⟨entry, inPending, same⟩ := List.mem_map.mp member
  have found : (surveyor.pending.find? fun entry => entry.ticket == ticket).isSome :=
    List.find?_isSome.mpr ⟨entry, inPending, beq_iff_eq.mpr same⟩
  obtain ⟨first, isFirst⟩ := Option.isSome_iff_exists.mp found
  exact ⟨first.job, by simp [job?, isFirst]⟩

theorem kindsOf_map_signal_self (surveyor : Surveyor) (ticket : Nat) (job : Job)
    (events : List Event) :
    kindsOf (some ticket) (events.map (surveyor.signal (some ticket) job)) =
      events.map Event.kind := by
  induction events with
  | nil => rfl
  | cons event rest ih => simp [kindsOf_cons_signal, ih]

theorem kindsOf_map_signal_other {other : Option Nat} (apart : other ≠ some ticket)
    (surveyor : Surveyor) (job : Job) (events : List Event) :
    kindsOf other (events.map (surveyor.signal (some ticket) job)) = [] := by
  induction events with
  | nil => rfl
  | cons event rest ih =>
      rw [List.map_cons, kindsOf_cons_signal, if_neg apart.symm, ih]
      rfl

/-- The first of the pending requests is with the worker. -/
structure Begun (surveyor : Surveyor) (ticket : Nat) : Prop where
  tickets_eq : surveyor.tickets = ticket :: surveyor.queue
  alone : ∀ other ∈ surveyor.running, other = ticket
  increasing : surveyor.tickets.Pairwise (· < ·)
  below : ∀ ticket ∈ surveyor.tickets, ticket < surveyor.accepted

namespace Begun

theorem not_mem_queue (begun : Begun surveyor ticket) : ticket ∉ surveyor.queue := by
  have increasing := begun.increasing
  rw [begun.tickets_eq, List.pairwise_cons] at increasing
  intro member
  exact Nat.lt_irrefl ticket (increasing.1 ticket member)

theorem mem_tickets (begun : Begun surveyor ticket) : ticket ∈ surveyor.tickets := by
  rw [begun.tickets_eq]
  exact List.mem_cons_self

theorem of_orderly (orderly : Orderly surveyor) {activity : Activity}
    (works : surveyor.worker = .running ticket job activity) : Begun surveyor ticket where
  tickets_eq := by
    rw [orderly.tickets_eq, running, works]
    rfl
  alone other member := by
    rw [running, works] at member
    exact List.mem_singleton.mp member
  increasing := orderly.increasing
  below := orderly.below

theorem of_taken (orderly : Orderly surveyor) {rest : List Nat}
    (idle : surveyor.worker = .idle) (queued : surveyor.queue = ticket :: rest) :
    Begun { surveyor with queue := rest } ticket where
  tickets_eq := by
    have all := orderly.tickets_eq
    rw [running, idle, queued] at all
    exact all
  alone other member := by
    rw [running, idle] at member
    contradiction
  increasing := orderly.increasing
  below := orderly.below

end Begun

/-! ## Letting a request go -/

/-- The surveyor once its worker has let a request go. -/
def released (surveyor : Surveyor) (ticket : Nat) (ending : Ending) : Surveyor :=
  { surveyor.close ticket ending with worker := .idle }

theorem finish_eq (surveyor : Surveyor) (now ticket : Nat) (job : Job) (ending : Ending) :
    surveyor.finish now ticket job ending =
      if job.isScan && !(surveyor.released ticket ending).hasScan then
        (surveyor.released ticket ending).arm now job.idleMillis
      else surveyor.released ticket ending :=
  rfl

theorem alike_finish (surveyor : Surveyor) (now ticket : Nat) (job : Job) (ending : Ending) :
    Alike (surveyor.released ticket ending) (surveyor.finish now ticket job ending) := by
  rw [finish_eq]
  split
  · exact alike_arm _ _ _
  · exact ⟨rfl, rfl, rfl, rfl, rfl⟩

theorem tickets_close (surveyor : Surveyor) (ticket : Nat) (ending : Ending) :
    (surveyor.close ticket ending).tickets = surveyor.tickets.filter (· != ticket) := by
  simp [tickets, close, List.filter_map, Function.comp_def]

theorem tickets_released (begun : Begun surveyor ticket) (ending : Ending) :
    (surveyor.released ticket ending).tickets = surveyor.queue := by
  have away : ∀ other ∈ surveyor.queue, (other != ticket) = true := by
    intro other member
    rw [bne_iff_ne]
    rintro rfl
    exact begun.not_mem_queue member
  have closed := tickets_close surveyor ticket ending
  rw [begun.tickets_eq, List.filter_cons, List.filter_eq_self.mpr away] at closed
  rw [if_neg (by simp)] at closed
  exact closed

theorem rejected_finish (surveyor : Surveyor) (now ticket : Nat) (job : Job) (ending : Ending) :
    (surveyor.finish now ticket job ending).stats.rejected = surveyor.stats.rejected := by
  have counted : (surveyor.stats.count ending).rejected = surveyor.stats.rejected := by
    cases ending <;> rfl
  rw [finish_eq]
  split <;> exact counted

theorem orderly_settle (begun : Begun surveyor ticket) (now : Nat) (job : Job)
    (step : List Event × Status) : Orderly (surveyor.settle now ticket job step).1 := by
  rcases step with ⟨events, activity | ending⟩
  · exact ⟨begun.tickets_eq, begun.increasing, begun.below⟩
  · apply (alike_finish surveyor now ticket job ending).orderly
    have left := tickets_released begun ending
    have increasing := begun.increasing
    have below := begun.below
    rw [begun.tickets_eq] at increasing below
    exact
      { tickets_eq := left
        increasing := left ▸ (List.pairwise_cons.mp increasing).2
        below := by
          intro other member
          rw [left] at member
          exact below other (List.mem_cons_of_mem ticket member) }

theorem pending_settle (surveyor : Surveyor) (now ticket : Nat) (job : Job)
    (step : List Event × Status) :
    ∀ entry ∈ (surveyor.settle now ticket job step).1.pending, entry ∈ surveyor.pending := by
  intro entry member
  rcases step with ⟨events, activity | ending⟩
  · exact member
  · simp only [settle, finish] at member
    split at member <;> exact (List.mem_filter.mp member).1

theorem rejected_settle (surveyor : Surveyor) (now ticket : Nat) (job : Job)
    (step : List Event × Status) :
    (surveyor.settle now ticket job step).1.stats.rejected = surveyor.stats.rejected := by
  rcases step with ⟨events, activity | ending⟩
  · rfl
  · exact rejected_finish surveyor now ticket job ending

/-! ## Where requests stand afterwards -/

/-- A run that waits stands at a stage. -/
theorem exists_stage_of_follows {activity : Activity} {position : Position}
    (follows : activity.program.Follows (courseMonitor isScanning) EndsIn position) :
    ∃ stage, position = .running stage := by
  have isOpen : position.isOpen ∨ ∃ stage, position = .running stage := by
    cases activity with
    | asking wait next =>
        have allowed := follows.1
        simp only [courseMonitor, Survey.allowed] at allowed
        split at allowed
        · exact Or.inr ⟨_, allowed⟩
        · exact Or.inl allowed
    | askingUnlessCancelled wait next => exact Or.inl follows.1.2
    | probing phase scan pool next => exact Or.inr ⟨_, follows.1⟩
  rcases isOpen with isOpen | stage
  · obtain ⟨stage, same, -⟩ := Survey.mayCancel_of_isOpen isOpen
    exact ⟨stage, same⟩
  · exact stage

/-- A request that is carried out a step further stands where the step has led. -/
theorem standsAt_settle_self (begun : Begun surveyor ticket) (now : Nat)
    (scans : job.plan.mode.isScanning = isScanning) {position : Position}
    {step : List Event × Status} (stepFrom : StepFrom isScanning position step) :
    ∃ reached, position.tellAll isScanning step.1 = some reached ∧
      (surveyor.settle now ticket job step).1.StandsAt ticket isScanning reached := by
  obtain ⟨reached, leads, suits⟩ := stepFrom
  refine ⟨reached, leads, ?_⟩
  rcases step with ⟨events, activity | ending⟩
  · obtain ⟨stage, rfl⟩ := exists_stage_of_follows suits
    exact ⟨job, activity, rfl, scans, suits⟩
  · have atEnd : reached = .ended ending := suits
    subst atEnd
    change ticket ∉ (surveyor.finish now ticket job ending).tickets
    rw [(alike_finish surveyor now ticket job ending).tickets, tickets_released begun ending]
    exact begun.not_mem_queue

/-- The other requests stay where they are. -/
theorem standsAt_settle_other (begun : Begun surveyor ticket) (now : Nat) (job : Job)
    (apart : other ≠ ticket) (step : List Event × Status) {position : Position}
    (stands : surveyor.StandsAt other isScanning position) :
    (surveyor.settle now ticket job step).1.StandsAt other isScanning position := by
  cases position with
  | running stage =>
      obtain ⟨job, activity, works, -⟩ := stands
      have isRunning : other ∈ surveyor.running := by
        rw [running, works]
        exact List.mem_singleton_self other
      exact absurd (begun.alone other isRunning) apart
  | waiting =>
      rcases step with ⟨events, activity | ending⟩
      · exact stands
      · have released : (surveyor.released ticket ending).StandsAt other isScanning .waiting :=
          stands
        exact (alike_finish surveyor now ticket job ending).standsAt released
  | ended last =>
      rcases step with ⟨events, activity | ending⟩
      · exact stands
      · have released :
            (surveyor.released ticket ending).StandsAt other isScanning (.ended last) := by
          change other ∉ (surveyor.released ticket ending).tickets
          rw [tickets_released begun ending]
          intro member
          apply stands
          rw [begun.tickets_eq]
          exact List.mem_cons_of_mem ticket member
        exact (alike_finish surveyor now ticket job ending).standsAt released

/-- A worker is about to carry out a request a step further.  `before` is the surveyor when
the turn began, and `already` is what was told since. -/
structure Prepared (before surveyor : Surveyor) (ticket : Nat) (job : Job)
    (step : List Event × Status) (already : List Signal) : Prop where
  begun : Begun surveyor ticket
  discoverer : surveyor.discoverer = before.discoverer
  pending : surveyor.pending = before.pending
  accepted : surveyor.accepted = before.accepted
  rejected : surveyor.stats.rejected = before.stats.rejected
  silent : ∀ ticket, ticket ∉ surveyor.queue → kindsOf (some ticket) already = []
  noRejection : kindsOf none already = []
  itself : ∀ told isScanning, Course before told ticket isScanning →
    ∃ position : Position, kindsOf (some ticket) told ∈ position.reach isScanning ∧
      StepFrom isScanning position step ∧ job.plan.mode.isScanning = isScanning
  others : ∀ told other isScanning, other ≠ ticket → Course before told other isScanning →
    ∃ position : Position,
      kindsOf (some other) (told ++ already) ∈ position.reach isScanning ∧
        surveyor.StandsAt other isScanning position

namespace Prepared

variable {before : Surveyor} {step : List Event × Status} {already : List Signal}

/-- Every request is then as far as what was told of it says. -/
theorem course (prepared : Prepared before surveyor ticket job step already) (now : Nat)
    {told : List Signal} {subject : Nat} (course : Course before told subject isScanning) :
    Course (surveyor.settle now ticket job step).1
      (told ++ (already ++ (surveyor.settle now ticket job step).2)) subject isScanning where
  accepted := by
    rw [accepted_settle, prepared.accepted]
    exact course.accepted
  mode := by
    intro entry member same
    have former := pending_settle surveyor now ticket job step entry member
    rw [prepared.pending] at former
    exact course.mode entry former same
  position := by
    rw [signals_settle]
    by_cases isSelf : subject = ticket
    · subst isSelf
      obtain ⟨position, reach, stepFrom, scans⟩ := prepared.itself told isScanning course
      obtain ⟨reached, leads, stands⟩ := standsAt_settle_self prepared.begun now scans stepFrom
      use reached
      constructor
      · rw [kindsOf_append, kindsOf_append, prepared.silent _ prepared.begun.not_mem_queue,
          List.nil_append, kindsOf_map_signal_self]
        exact Position.reach_tellAll leads reach
      · exact stands
    · obtain ⟨position, reach, stands⟩ := prepared.others told subject isScanning isSelf course
      have apart : some subject ≠ some ticket := by simpa using isSelf
      use position
      constructor
      · rwa [← List.append_assoc, kindsOf_append, kindsOf_map_signal_other apart,
          List.append_nil]
      · exact standsAt_settle_other prepared.begun now job isSelf step stands

/-- Nothing is told of requests that are still to come. -/
theorem fresh (prepared : Prepared before surveyor ticket job step already) (now : Nat)
    {subject : Nat} (beyond : surveyor.accepted ≤ subject) :
    kindsOf (some subject) (already ++ (surveyor.settle now ticket job step).2) = [] := by
  have late : ∀ member ∈ surveyor.tickets, member ≠ subject := by
    intro member inTickets
    exact Nat.ne_of_lt (Nat.lt_of_lt_of_le (prepared.begun.below member inTickets) beyond)
  have notQueued : subject ∉ surveyor.queue := by
    intro inQueue
    apply late subject _ rfl
    rw [prepared.begun.tickets_eq]
    exact List.mem_cons_of_mem ticket inQueue
  have apart : some subject ≠ some ticket := by
    simpa using (late ticket prepared.begun.mem_tickets).symm
  rw [kindsOf_append, prepared.silent _ notQueued, signals_settle,
    kindsOf_map_signal_other apart]
  rfl

/-- Carrying a request out a step further keeps the order. -/
theorem keeps (prepared : Prepared before surveyor ticket job step already) (now : Nat) :
    Keeps before
      ((surveyor.settle now ticket job step).1,
        already ++ (surveyor.settle now ticket job step).2) where
  discoverer := by rw [discoverer_settle, prepared.discoverer]
  orderly := orderly_settle prepared.begun now job step
  accepted := by rw [accepted_settle, prepared.accepted]
  course _ _ _ course := prepared.course now course
  begun := by
    intro subject from_ below
    rw [accepted_settle, prepared.accepted] at below
    exact absurd below (Nat.not_lt.mpr from_)
  fresh := by
    intro subject beyond
    rw [accepted_settle] at beyond
    exact prepared.fresh now beyond
  rejected := by
    use 0
    constructor
    · rw [rejected_settle, prepared.rejected]
      rfl
    · rw [kindsOf_append, prepared.noRejection, signals_settle, kindsOf_map_signal_other (by simp)]
      rfl

end Prepared

/-! ## Waking the worker -/

/-- What a worker may do when it is woken. -/
inductive Resumes (surveyor : Surveyor) (now : Moment) (wake : Wake) :
    Surveyor × List Signal → Prop
  | settles (ticket : Nat) (job : Job) (activity : Activity)
    (works : surveyor.worker = .running ticket job activity) :
    Resumes surveyor now wake (surveyor.settle now.millis ticket job
      (activity.resume now.timestamp (surveyor.isCancelled ticket) wake))
  | rests : Resumes surveyor now wake (surveyor, [])

theorem resumes (surveyor : Surveyor) (now : Moment) (wake : Wake) :
    Resumes surveyor now wake (surveyor.resume now wake) := by
  unfold resume
  split
  case h_1 ticket job activity works => exact .settles ticket job activity works
  case h_2 => exact .rests

theorem keeps_resume (orderly : Orderly surveyor) (now : Moment) (wake : Wake) :
    Keeps surveyor (surveyor.resume now wake) := by
  have resumed := resumes surveyor now wake
  generalize surveyor.resume now wake = step at resumed ⊢
  cases resumed with
  | settles ticket job activity works =>
      have begun := Begun.of_orderly orderly works
      have prepared : Prepared surveyor surveyor ticket job
          (activity.resume now.timestamp (surveyor.isCancelled ticket) wake) [] :=
        { begun := begun
          discoverer := rfl
          pending := rfl
          accepted := rfl
          rejected := rfl
          silent := fun _ _ => rfl
          noRejection := rfl
          itself := by
            intro told isScanning course
            obtain ⟨position, reach, stands⟩ := course.position
            cases position with
            | waiting => exact absurd stands begun.not_mem_queue
            | ended ending => exact absurd begun.mem_tickets stands
            | running stage =>
                obtain ⟨sameJob, sameActivity, alsoWorks, scans, follows⟩ := stands
                obtain ⟨-, rfl, rfl⟩ := Worker.running.inj (works.symm.trans alsoWorks)
                exact ⟨activity.woken wake (.running stage),
                  Position.reach_answers (Survey.answers_woken wake follows) reach,
                  Survey.resume_stepFrom now.timestamp (surveyor.isCancelled ticket) wake follows,
                  scans⟩
          others := by
            intro told other isScanning _ course
            rw [List.append_nil]
            exact course.position }
      exact prepared.keeps now.millis
  | rests => exact .refl orderly

/-! ## Taking a request -/

/-- What is told of the requests that wait behind a ticket. -/
theorem mem_positions {signal : Signal} (begun : Begun surveyor ticket)
    (member : signal ∈ surveyor.positions ticket) :
    signal.event.kind = .pending ∧ ∃ other ∈ surveyor.queue, signal.ticket = some other := by
  obtain ⟨⟨entry, index⟩, inList, told⟩ := List.mem_filterMap.mp member
  obtain ⟨inPending, apart⟩ := List.mem_filter.mp (List.fst_mem_of_mem_zipIdx inList)
  have inTickets : entry.ticket ∈ ticket :: surveyor.queue := by
    rw [← begun.tickets_eq]
    exact List.mem_map_of_mem inPending
  simp only at told
  split at told
  · contradiction
  · cases told
    refine ⟨rfl, entry.ticket, ?_, rfl⟩
    rcases List.mem_cons.mp inTickets with same | inQueue
    · simp [same] at apart
    · exact inQueue

theorem kindsOf_positions_of_not_mem (begun : Begun surveyor ticket) {subject : Option Nat}
    (away : ∀ other ∈ surveyor.queue, some other ≠ subject) :
    kindsOf subject (surveyor.positions ticket) = [] := by
  unfold kindsOf
  rw [List.map_eq_nil_iff, List.filter_eq_nil_iff]
  intro signal member same
  obtain ⟨-, other, inQueue, hasTicket⟩ := mem_positions begun member
  exact away other inQueue (hasTicket.symm.trans (of_decide_eq_true same))

theorem append_pending_mem {word more : List ProgressKind}
    (member : word ∈ Position.reach isScanning .waiting)
    (pending : ∀ kind ∈ more, kind = .pending) :
    word ++ more ∈ Position.reach isScanning .waiting := by
  induction more generalizing word with
  | nil => rwa [List.append_nil]
  | cons first rest ih =>
      have isPending := pending first List.mem_cons_self
      subst isPending
      have all := ih (Position.reach_pending member) fun kind inRest =>
        pending kind (List.mem_cons_of_mem _ inRest)
      rwa [List.append_assoc] at all

/-- While the worker is idle no request runs. -/
theorem not_standsAt_running (idle : surveyor.worker = .idle) {stage : Survey.Stage} :
    ¬surveyor.StandsAt ticket isScanning (.running stage) := by
  rintro ⟨job, activity, works, -⟩
  rw [idle] at works
  contradiction

/-- Those who are told how many are ahead of them wait on. -/
theorem standsAt_taken {rest : List Nat} (begun : Begun { surveyor with queue := rest } ticket)
    (idle : surveyor.worker = .idle) (queued : surveyor.queue = ticket :: rest)
    (apart : other ≠ ticket) {told : List Signal}
    (stood : ∃ position : Position, kindsOf (some other) told ∈ position.reach isScanning ∧
      surveyor.StandsAt other isScanning position) :
    ∃ position : Position,
      kindsOf (some other) (told ++ Surveyor.positions ticket { surveyor with queue := rest }) ∈
          position.reach isScanning ∧
        StandsAt { surveyor with queue := rest } other isScanning position := by
  obtain ⟨position, reach, stands⟩ := stood
  cases position with
  | running stage => exact absurd stands (not_standsAt_running idle)
  | waiting =>
      have inRest : other ∈ rest := by
        have inQueue : other ∈ surveyor.queue := stands
        rw [queued] at inQueue
        exact (List.mem_cons.mp inQueue).resolve_left apart
      refine ⟨.waiting, ?_, inRest⟩
      rw [kindsOf_append]
      apply append_pending_mem reach
      intro kind member
      obtain ⟨signal, inSignals, rfl⟩ := List.mem_map.mp member
      exact (mem_positions begun (List.mem_filter.mp inSignals).1).1
  | ended ending =>
      refine ⟨.ended ending, ?_, stands⟩
      rw [kindsOf_append, kindsOf_positions_of_not_mem begun, List.append_nil]
      · exact reach
      · rintro waiting inQueue ⟨⟩
        apply stands
        have inTickets : other ∈ tickets { surveyor with queue := rest } := by
          rw [begun.tickets_eq]
          exact List.mem_cons_of_mem ticket inQueue
        exact inTickets

theorem keeps_begin (orderly : Orderly surveyor) (now : Moment) {rest : List Nat}
    (idle : surveyor.worker = .idle) (queued : surveyor.queue = ticket :: rest)
    (found : surveyor.job? ticket = some job) :
    Keeps surveyor (Surveyor.begin now ticket job { surveyor with queue := rest }) := by
  have begun := Begun.of_taken orderly idle queued
  obtain ⟨entry, inPending, isTicket, isJob⟩ := mem_of_job? found
  have prepared : Prepared surveyor { surveyor with queue := rest } ticket job
      (advance now.timestamp job.isCancelled
        (Surveyor.survey { surveyor with queue := rest } job).run)
      (Surveyor.positions ticket { surveyor with queue := rest }) :=
    { begun := begun
      discoverer := rfl
      pending := rfl
      accepted := rfl
      rejected := rfl
      silent := by
        intro subject away
        apply kindsOf_positions_of_not_mem begun
        rintro other inQueue ⟨⟩
        exact away inQueue
      noRejection := kindsOf_positions_of_not_mem begun fun _ _ => by simp
      itself := by
        intro told isScanning course
        have scans : job.plan.mode.isScanning = isScanning := by
          rw [← isJob]
          exact course.mode entry inPending isTicket
        obtain ⟨position, reach, stands⟩ := course.position
        cases position with
        | ended ending => exact absurd begun.mem_tickets stands
        | running stage => exact absurd stands (not_standsAt_running idle)
        | waiting =>
            refine ⟨.waiting, reach, ?_, scans⟩
            rw [← scans]
            exact Survey.advance_stepFrom now.timestamp job.isCancelled
              (Survey.follows_run (Surveyor.survey { surveyor with queue := rest } job))
      others := by
        intro told other isScanning apart course
        exact standsAt_taken begun idle queued apart course.position }
  exact prepared.keeps now.millis

/-! ## Stopping -/

/-- A surveyor that cancels what is left ends up without pending requests. -/
structure Drained (before : Surveyor) (left : List Nat) (step : Surveyor × List Signal) : Prop where
  discoverer : step.1.discoverer = before.discoverer
  pending : step.1.pending = []
  queue : step.1.queue = before.queue
  worker : step.1.worker = before.worker
  accepted : step.1.accepted = before.accepted
  rejected : step.1.stats.rejected = before.stats.rejected
  told : ∀ ticket : Nat, kindsOf (some ticket) step.2 =
    if ticket ∈ left then [.cancelled] else []
  noRejection : kindsOf none step.2 = []

theorem drained {left : List Nat} (nodup : left.Nodup) (tickets_eq : surveyor.tickets = left) :
    Drained surveyor left (drain left surveyor) := by
  induction left generalizing surveyor with
  | nil =>
      exact
        { discoverer := rfl
          pending := List.map_eq_nil_iff.mp tickets_eq
          queue := rfl
          worker := rfl
          accepted := rfl
          rejected := rfl
          told := fun _ => rfl
          noRejection := rfl }
  | cons first rest ih =>
      rw [List.nodup_cons] at nodup
      obtain ⟨job, found⟩ : ∃ job, surveyor.job? first = some job :=
        exists_job? (by rw [tickets_eq]; exact List.mem_cons_self)
      have away : ∀ other ∈ rest, (other != first) = true := by
        intro other member
        rw [bne_iff_ne]
        rintro rfl
        exact nodup.1 member
      have closed : (surveyor.close first .cancelled).tickets = rest := by
        rw [tickets_close, tickets_eq, List.filter_cons, if_neg (by simp)]
        exact List.filter_eq_self.mpr away
      have below := ih nodup.2 closed
      unfold drain
      rw [found]
      exact
        { discoverer := below.discoverer
          pending := below.pending
          queue := below.queue
          worker := below.worker
          accepted := below.accepted
          rejected := below.rejected
          told := by
            intro ticket
            rw [kindsOf_cons_signal, below.told ticket]
            by_cases same : ticket = first
            · subst same
              rw [if_pos rfl, if_neg nodup.1, if_pos List.mem_cons_self]
              rfl
            · have apart : some first ≠ some ticket := by simpa using Ne.symm same
              rw [if_neg apart]
              simp [same]
          noRejection := by
            rw [kindsOf_cons_signal, below.noRejection]
            rfl }

theorem tickets_eq_queue (orderly : Orderly surveyor) (idle : surveyor.worker = .idle) :
    surveyor.tickets = surveyor.queue := by
  rw [orderly.tickets_eq, running, idle]
  rfl

theorem drained_retire (orderly : Orderly surveyor) (idle : surveyor.worker = .idle) :
    Drained { surveyor with queue := [], worker := .stopped } surveyor.queue surveyor.retire := by
  have queued := tickets_eq_queue orderly idle
  have nodup : surveyor.queue.Nodup :=
    queued ▸ orderly.increasing.imp fun less => Nat.ne_of_lt less
  exact drained nodup queued

theorem keeps_retire (orderly : Orderly surveyor) (idle : surveyor.worker = .idle) :
    Keeps surveyor surveyor.retire := by
  have queued := tickets_eq_queue orderly idle
  have all := drained_retire orderly idle
  have noTickets : surveyor.retire.1.tickets = [] := by rw [tickets, all.pending, List.map_nil]
  exact
    { discoverer := all.discoverer
      orderly :=
        { tickets_eq := by rw [noTickets, running, all.worker, all.queue]; rfl
          increasing := by rw [noTickets]; exact .nil
          below := by rw [noTickets]; simp }
      accepted := Nat.le_of_eq all.accepted.symm
      course := by
        intro told ticket isScanning course
        refine ⟨all.accepted ▸ course.accepted, by simp [all.pending], ?_⟩
        rw [kindsOf_append, all.told]
        obtain ⟨position, reach, stands⟩ := course.position
        cases position with
        | running stage => exact absurd stands (not_standsAt_running idle)
        | waiting =>
            have inQueue : ticket ∈ surveyor.queue := stands
            refine ⟨.ended .cancelled, ?_, ?_⟩
            · have leads : Position.tell isScanning .waiting .cancelled =
                  some (.ended .cancelled) := rfl
              rw [if_pos inQueue]
              exact Position.reach_tell leads reach
            · change ticket ∉ surveyor.retire.1.tickets
              simp [noTickets]
        | ended ending =>
            have notQueued : ticket ∉ surveyor.queue := queued ▸ stands
            refine ⟨.ended ending, ?_, ?_⟩
            · rwa [if_neg notQueued, List.append_nil]
            · change ticket ∉ surveyor.retire.1.tickets
              simp [noTickets]
      begun := by
        intro ticket from_ below
        rw [all.accepted] at below
        exact absurd below (Nat.not_lt.mpr from_)
      fresh := by
        intro ticket beyond
        rw [all.accepted] at beyond
        rw [all.told, if_neg]
        intro inQueue
        exact absurd (orderly.below ticket (queued ▸ inQueue)) (Nat.not_lt.mpr beyond)
      rejected := ⟨0, all.rejected, all.noRejection⟩ }

/-! ## Taking a request -/

/-- What a worker may do when it takes its turn. -/
inductive Takes (surveyor : Surveyor) (now : Moment) : Surveyor × List Signal → Prop
  | busy (works : surveyor.worker ≠ .idle) : Takes surveyor now (surveyor, [])
  | retires (idle : surveyor.worker = .idle) (stopping : surveyor.isStopping) :
    Takes surveyor now surveyor.retire
  | rests (idle : surveyor.worker = .idle) (nothing : surveyor.queue = []) :
    Takes surveyor now (surveyor, [])
  | begins (ticket : Nat) (rest : List Nat) (job : Job) (idle : surveyor.worker = .idle)
    (queued : surveyor.queue = ticket :: rest) (found : surveyor.job? ticket = some job) :
    Takes surveyor now (Surveyor.begin now ticket job { surveyor with queue := rest })

/-- Every request in the queue is found under its ticket. -/
theorem takes (orderly : Orderly surveyor) (now : Moment) :
    Takes surveyor now (surveyor.take now) := by
  unfold take
  split
  case h_1 idle =>
    split
    case isTrue stopping => exact .retires idle stopping
    case isFalse =>
      split
      case h_1 nothing => exact .rests idle nothing
      case h_2 ticket rest queued =>
        have member : ticket ∈ surveyor.tickets := by
          rw [tickets_eq_queue orderly idle, queued]
          exact List.mem_cons_self
        obtain ⟨job, found⟩ := exists_job? member
        have same : Surveyor.job? { surveyor with queue := rest } ticket = some job := found
        simp only [same]
        exact .begins ticket rest job idle queued found
  case h_2 works => exact .busy works

theorem keeps_take (orderly : Orderly surveyor) (now : Moment) :
    Keeps surveyor (surveyor.take now) := by
  have taken := takes orderly now
  generalize surveyor.take now = step at taken ⊢
  cases taken with
  | busy works => exact .refl orderly
  | retires idle stopping => exact keeps_retire orderly idle
  | rests idle nothing => exact .refl orderly
  | begins ticket rest job idle queued found => exact keeps_begin orderly now idle queued found

end FieldSurvey.Surveyor
