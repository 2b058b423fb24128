import FieldSurvey.Proofs.Survey.Advance
import FieldSurvey.Proofs.Surveyor.Turn

/-!
# Order among requests

The requests that are pending are the one that runs, if any, and those in the queue, in
the order of their tickets.  Every request stands at a position of the protocol, which
what was told of it has led to.  A step keeps this order if it does so for every request
that was accepted before, and lets those that it accepts begin properly.
-/

namespace FieldSurvey.Surveyor

open Model (ProgressKind)
open Survey (Ending Position courseMonitor EndsIn)

/-- What was told of a ticket, or of requests without one. -/
def kindsOf (ticket : Option Nat) (signals : List Signal) : List ProgressKind :=
  (signals.filter fun signal => signal.ticket = ticket).map fun signal => signal.event.kind

@[simp]
theorem kindsOf_nil (ticket : Option Nat) : kindsOf ticket [] = [] :=
  rfl

@[simp]
theorem kindsOf_append (ticket : Option Nat) (front back : List Signal) :
    kindsOf ticket (front ++ back) = kindsOf ticket front ++ kindsOf ticket back := by
  simp [kindsOf]

theorem kindsOf_cons_signal (subject ticket : Option Nat) (surveyor : Surveyor) (job : Job)
    (event : Survey.Event) (rest : List Signal) :
    kindsOf subject (surveyor.signal ticket job event :: rest) =
      (if ticket = subject then [event.kind] else []) ++ kindsOf subject rest := by
  by_cases same : ticket = subject
  · simp [kindsOf, signal, same]
  · simp [kindsOf, signal, same]

/-- The tickets of the pending requests. -/
def tickets (surveyor : Surveyor) : List Nat :=
  surveyor.pending.map Entry.ticket

/-- The ticket of the request that runs. -/
def running (surveyor : Surveyor) : List Nat :=
  match surveyor.worker with
  | .running ticket _ _ => [ticket]
  | _ => []

/-- The requests that are pending, in order. -/
structure Orderly (surveyor : Surveyor) : Prop where
  tickets_eq : surveyor.tickets = surveyor.running ++ surveyor.queue
  increasing : surveyor.tickets.Pairwise (· < ·)
  below : ∀ ticket ∈ surveyor.tickets, ticket < surveyor.accepted

/-- Whether a request stands where its position in the protocol says. -/
def StandsAt (surveyor : Surveyor) (ticket : Nat) (isScanning : Bool) : Position → Prop
  | .waiting => ticket ∈ surveyor.queue
  | .running stage =>
    ∃ job activity, surveyor.worker = .running ticket job activity ∧
      job.plan.mode.isScanning = isScanning ∧
      activity.program.Follows (courseMonitor isScanning) EndsIn (.running stage)
  | .ended _ => ticket ∉ surveyor.tickets

/-- A request that was accepted has come as far as what was told of it says. -/
structure Course (surveyor : Surveyor) (told : List Signal) (ticket : Nat) (isScanning : Bool) :
    Prop where
  accepted : ticket < surveyor.accepted
  mode : ∀ entry ∈ surveyor.pending, entry.ticket = ticket →
    entry.job.plan.mode.isScanning = isScanning
  position : ∃ position : Position, kindsOf (some ticket) told ∈ position.reach isScanning ∧
    surveyor.StandsAt ticket isScanning position

/-- A step that keeps the order among requests. -/
structure Keeps (before : Surveyor) (step : Surveyor × List Signal) : Prop where
  discoverer : step.1.discoverer = before.discoverer
  orderly : Orderly step.1
  accepted : before.accepted ≤ step.1.accepted
  course : ∀ told ticket isScanning, Course before told ticket isScanning →
    Course step.1 (told ++ step.2) ticket isScanning
  begun : ∀ ticket, before.accepted ≤ ticket → ticket < step.1.accepted →
    ∃ isScanning, Course step.1 step.2 ticket isScanning
  fresh : ∀ ticket, step.1.accepted ≤ ticket → kindsOf (some ticket) step.2 = []
  rejected : ∃ more, step.1.stats.rejected = before.stats.rejected + more ∧
    kindsOf none step.2 = List.replicate more .error

namespace Keeps

theorem refl {surveyor : Surveyor} (orderly : Orderly surveyor) :
    Keeps surveyor (surveyor, []) where
  discoverer := rfl
  orderly := orderly
  accepted := Nat.le_refl _
  course told ticket isScanning course := by simpa using course
  begun ticket from_ below := absurd below (Nat.not_lt.mpr from_)
  fresh _ _ := rfl
  rejected := ⟨0, rfl, rfl⟩

theorem trans {before : Surveyor} {first second : Surveyor × List Signal}
    (firstKeeps : Keeps before first) (secondKeeps : Keeps first.1 second) :
    Keeps before (second.1, first.2 ++ second.2) where
  discoverer := secondKeeps.discoverer.trans firstKeeps.discoverer
  orderly := secondKeeps.orderly
  accepted := firstKeeps.accepted.trans secondKeeps.accepted
  course told ticket isScanning course := by
    rw [← List.append_assoc]
    exact secondKeeps.course _ _ _ (firstKeeps.course _ _ _ course)
  begun ticket from_ below := by
    by_cases early : ticket < first.1.accepted
    · obtain ⟨isScanning, course⟩ := firstKeeps.begun ticket from_ early
      exact ⟨isScanning, secondKeeps.course _ _ _ course⟩
    · have late := Nat.not_lt.mp early
      obtain ⟨isScanning, accepted, mode, position⟩ := secondKeeps.begun ticket late below
      refine ⟨isScanning, accepted, mode, ?_⟩
      rwa [kindsOf_append, firstKeeps.fresh ticket late, List.nil_append]
  fresh ticket beyond := by
    rw [kindsOf_append, firstKeeps.fresh ticket (secondKeeps.accepted.trans beyond),
      secondKeeps.fresh ticket beyond, List.nil_append]
  rejected := by
    obtain ⟨one, count, told⟩ := firstKeeps.rejected
    obtain ⟨two, countAll, toldAll⟩ := secondKeeps.rejected
    refine ⟨one + two, ?_, ?_⟩
    · rw [countAll, count, Nat.add_assoc]
    · rw [kindsOf_append, told, toldAll, List.replicate_append_replicate]

end Keeps

/-- Two surveyors with the same requests in the same places. -/
structure Alike (before after : Surveyor) : Prop where
  requests : (after.pending.map fun entry => (entry.ticket, entry.job.plan)) =
    before.pending.map fun entry => (entry.ticket, entry.job.plan)
  queue : after.queue = before.queue
  worker : after.worker = before.worker
  accepted : after.accepted = before.accepted
  discoverer : after.discoverer = before.discoverer

namespace Alike

variable {before after : Surveyor}

theorem tickets (alike : Alike before after) : after.tickets = before.tickets := by
  have same := congrArg (List.map Prod.fst) alike.requests
  simpa [Surveyor.tickets, Function.comp_def] using same

theorem orderly (alike : Alike before after) (orderly : Orderly before) : Orderly after where
  tickets_eq := by
    rw [alike.tickets, alike.queue, running, alike.worker]
    exact orderly.tickets_eq
  increasing := by
    rw [alike.tickets]
    exact orderly.increasing
  below := by
    rw [alike.tickets, alike.accepted]
    exact orderly.below

theorem standsAt (alike : Alike before after) {ticket : Nat} {isScanning : Bool}
    {position : Position} (stands : before.StandsAt ticket isScanning position) :
    after.StandsAt ticket isScanning position := by
  cases position with
  | waiting =>
      change ticket ∈ after.queue
      rw [alike.queue]
      exact stands
  | running stage =>
      obtain ⟨job, activity, works, rest⟩ := stands
      exact ⟨job, activity, alike.worker.trans works, rest⟩
  | ended ending =>
      change ticket ∉ after.tickets
      rw [alike.tickets]
      exact stands

theorem course (alike : Alike before after) {told : List Signal} {ticket : Nat}
    {isScanning : Bool} (course : Course before told ticket isScanning) :
    Course after told ticket isScanning where
  accepted := alike.accepted ▸ course.accepted
  mode := by
    intro entry member same
    have inBefore : (entry.ticket, entry.job.plan) ∈
        before.pending.map fun entry => (entry.ticket, entry.job.plan) := by
      rw [← alike.requests]
      exact List.mem_map.mpr ⟨entry, member, rfl⟩
    obtain ⟨former, formerMember, equal⟩ := List.mem_map.mp inBefore
    obtain ⟨sameTicket, samePlan⟩ := Prod.mk.inj equal
    rw [← samePlan]
    exact course.mode former formerMember (sameTicket.trans same)
  position := by
    obtain ⟨position, reach, stands⟩ := course.position
    exact ⟨position, reach, alike.standsAt stands⟩

theorem keeps (alike : Alike before after) (orderly : Orderly before)
    (rejected : after.stats.rejected = before.stats.rejected) : Keeps before (after, []) where
  discoverer := alike.discoverer
  orderly := alike.orderly orderly
  accepted := Nat.le_of_eq alike.accepted.symm
  course told ticket isScanning course := by simpa using alike.course course
  begun ticket from_ below := absurd (alike.accepted ▸ below) (Nat.not_lt.mpr from_)
  fresh _ _ := rfl
  rejected := ⟨0, rejected, rfl⟩

end Alike

theorem alike_cancelWhere (test : Job → Bool) (surveyor : Surveyor) :
    Alike surveyor (surveyor.cancelWhere test) where
  requests := by
    simp only [cancelWhere, List.map_map]
    apply List.map_congr_left
    intro entry _
    by_cases picked : test entry.job <;> simp [picked, Job.cancel]
  queue := rfl
  worker := rfl
  accepted := rfl
  discoverer := rfl

theorem alike_arm (now delay : Nat) (surveyor : Surveyor) :
    Alike surveyor (surveyor.arm now delay) :=
  ⟨rfl, rfl, rfl, rfl, rfl⟩

theorem alike_configure (mode : Model.Mode) (config : Model.ScanConfig)
    (surroundings : Surroundings) (now : Nat) (surveyor : Surveyor) :
    Alike surveyor (surveyor.configure mode config surroundings now) := by
  rw [configure_eq]
  exact ⟨rfl, rfl, rfl, rfl, rfl⟩

theorem alike_stop (surveyor : Surveyor) : Alike surveyor surveyor.stop := by
  obtain ⟨requests, queue, worker, accepted, discoverer⟩ :=
    alike_cancelWhere (fun _ => true) surveyor
  exact ⟨requests, queue, worker, accepted, discoverer⟩

end FieldSurvey.Surveyor
