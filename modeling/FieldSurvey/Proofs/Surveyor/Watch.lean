import FieldSurvey.Proofs.Surveyor.Finishing

/-!
# Watching the signals

Somebody who sees nothing but the signals can tell which request runs: the one that has been
told to have started and of no ending yet.  Whatever turns are taken, no other request starts,
goes on or ends meanwhile, and every request that starts has a greater ticket than those before.
-/

namespace FieldSurvey.Surveyor

open Model (ProgressKind)
open Survey (Event Position Stage Status StepFrom)

/-- What the signals seen so far tell of the runs. -/
structure Watch where
  /-- the request that has started and not ended -/
  current : Option Nat := none
  /-- the least ticket that may start -/
  next : Nat := 0

namespace Watch

/-- The signals that may be seen next, and what they tell. -/
inductive Sees (watch : Watch) : Signal → Watch → Prop
  /-- a request without a ticket was rejected -/
  | rejected {signal : Signal} (nobody : signal.ticket = none)
      (isError : signal.event.kind = .error) : Sees watch signal watch
  | pending {signal : Signal} {ticket : Nat} (its : signal.ticket = some ticket)
      (waits : signal.event.kind = .pending) : Sees watch signal watch
  | started {signal : Signal} {ticket : Nat} (its : signal.ticket = some ticket)
      (starts : signal.event.kind = .started) (idle : watch.current = none)
      (inTurn : watch.next ≤ ticket) : Sees watch signal ⟨some ticket, ticket + 1⟩
  /-- the request that runs goes on -/
  | wentOn {signal : Signal} {ticket : Nat} (its : signal.ticket = some ticket)
      (runs : watch.current = some ticket) (goesOn : ¬signal.event.kind.isTerminal)
      (notAgain : signal.event.kind ≠ .started) : Sees watch signal watch
  | ended {signal : Signal} {ticket : Nat} (its : signal.ticket = some ticket)
      (runs : watch.current = some ticket) (ends : signal.event.kind.isTerminal) :
      Sees watch signal { watch with current := none }
  /-- a request that has not started is cancelled -/
  | dropped {signal : Signal} {ticket : Nat} (its : signal.ticket = some ticket)
      (idle : watch.current = none) (isCancelled : signal.event.kind = .cancelled) :
      Sees watch signal watch

/-- What a sequence of signals tells, if it may be seen. -/
def SeesAll (watch : Watch) : List Signal → Watch → Prop
  | [], last => last = watch
  | signal :: rest, last => ∃ middle, watch.Sees signal middle ∧ middle.SeesAll rest last

variable {watch middle last : Watch}

theorem SeesAll.append {front back : List Signal} (first : watch.SeesAll front middle)
    (second : middle.SeesAll back last) : watch.SeesAll (front ++ back) last := by
  induction front generalizing watch with
  | nil =>
      cases first
      exact second
  | cons signal rest ih =>
      obtain ⟨between, sees, onward⟩ := first
      exact ⟨between, sees, ih onward⟩

theorem SeesAll.split {front back : List Signal} (all : watch.SeesAll (front ++ back) last) :
    ∃ middle, watch.SeesAll front middle ∧ middle.SeesAll back last := by
  induction front generalizing watch with
  | nil => exact ⟨watch, rfl, all⟩
  | cons signal rest ih =>
      obtain ⟨between, sees, onward⟩ := all
      obtain ⟨middle, first, second⟩ := ih onward
      exact ⟨middle, ⟨between, sees, first⟩, second⟩

/-- Signals each of which tells nothing new. -/
theorem seesAll_of_forall {signals : List Signal}
    (each : ∀ signal ∈ signals, watch.Sees signal watch) : watch.SeesAll signals watch := by
  induction signals with
  | nil => rfl
  | cons signal rest ih =>
      exact ⟨watch, each signal List.mem_cons_self,
        ih fun other member => each other (List.mem_cons_of_mem signal member)⟩

end Watch

/-! ## What was seen -/

/-- The tickets of the requests that start, in that order. -/
def startings (signals : List Signal) : List Nat :=
  signals.filterMap fun signal =>
    if signal.event.kind = .started then signal.ticket else none

theorem startings_cons_of_ne {signal : Signal} (apart : signal.event.kind ≠ .started)
    (rest : List Signal) : startings (signal :: rest) = startings rest := by
  simp [startings, apart]

namespace Watch

variable {watch last : Watch} {signals : List Signal}

theorem Sees.next_le {signal : Signal} (sees : watch.Sees signal last) :
    watch.next ≤ last.next := by
  cases sees with
  | started its starts idle inTurn => exact inTurn.trans (Nat.le_succ _)
  | _ => exact Nat.le_refl _

/-- Requests start in the order of their tickets. -/
theorem SeesAll.startings_increase (all : watch.SeesAll signals last) :
    (startings signals).Pairwise (· < ·) ∧ ∀ ticket ∈ startings signals, watch.next ≤ ticket := by
  induction signals generalizing watch with
  | nil => exact ⟨.nil, fun _ member => absurd member List.not_mem_nil⟩
  | cons signal rest ih =>
      obtain ⟨middle, sees, onward⟩ := all
      obtain ⟨increase, least⟩ := ih onward
      have later := sees.next_le
      by_cases starts : signal.event.kind = .started
      · cases sees with
        | @started ticket its _ idle inTurn =>
            have first : startings (signal :: rest) = ticket :: startings rest := by
              simp [startings, starts, its]
            rw [first]
            constructor
            · exact List.pairwise_cons.mpr ⟨least, increase⟩
            · intro other member
              rcases List.mem_cons.mp member with rfl | inRest
              · exact inTurn
              · exact later.trans (least other inRest)
        | wentOn its runs goesOn notAgain => exact absurd starts notAgain
        | rejected nobody isError => simp [starts] at isError
        | pending its waits => simp [starts] at waits
        | ended its runs ends => simp [starts, ProgressKind.isTerminal] at ends
        | dropped its idle isCancelled => simp [starts] at isCancelled
      · rw [startings_cons_of_ne starts]
        exact ⟨increase, fun ticket member => later.trans (least ticket member)⟩

/-- While a request runs nothing is told of others but that they wait or were rejected. -/
theorem SeesAll.alone {ticket : Nat} (all : watch.SeesAll signals last)
    (runs : watch.current = some ticket)
    (unended : ∀ signal ∈ signals, signal.ticket = some ticket → ¬signal.event.kind.isTerminal) :
    ∀ signal ∈ signals, signal.ticket ≠ some ticket →
      signal.event.kind = .pending ∨ signal.ticket = none ∧ signal.event.kind = .error := by
  induction signals generalizing watch with
  | nil => exact fun signal member => absurd member List.not_mem_nil
  | cons signal rest ih =>
      obtain ⟨middle, sees, onward⟩ := all
      have stillUnended := fun other member =>
        unended other (List.mem_cons_of_mem signal member)
      suffices here : middle.current = some ticket ∧ (signal.ticket ≠ some ticket →
          signal.event.kind = .pending ∨ signal.ticket = none ∧ signal.event.kind = .error) by
        intro other member
        rcases List.mem_cons.mp member with rfl | inRest
        · exact here.2
        · exact ih onward here.1 stillUnended other inRest
      cases sees with
      | rejected nobody isError => exact ⟨runs, fun _ => Or.inr ⟨nobody, isError⟩⟩
      | pending its waits => exact ⟨runs, fun _ => Or.inl waits⟩
      | started its starts idle inTurn =>
          rw [runs] at idle
          contradiction
      | wentOn its alsoRuns goesOn notAgain =>
          exact ⟨runs, fun apart => absurd (its.trans (alsoRuns.symm.trans runs)) apart⟩
      | ended its alsoRuns ends =>
          have same := its.trans (alsoRuns.symm.trans runs)
          exact absurd ends (unended signal List.mem_cons_self same)
      | dropped its idle isCancelled =>
          rw [runs] at idle
          contradiction

end Watch

/-! ## A run under watch -/

/-- Whether the signals seen so far tell where the request that is with the worker stands. -/
def Watch.Fits (watch : Watch) (ticket : Nat) : Position → Prop
  | .waiting => watch.current = none ∧ watch.next ≤ ticket
  | .running _ => watch.current = some ticket ∧ watch.next ≤ ticket + 1
  | .ended _ => watch.current = none ∧ watch.next ≤ ticket + 1

variable {watch : Watch} {surveyor : Surveyor} {ticket : Nat} {isScanning : Bool}

theorem Watch.Fits.next_le {position : Position} (fits : watch.Fits ticket position) :
    watch.next ≤ ticket + 1 := by
  cases position with
  | waiting => exact fits.2.trans (Nat.le_succ _)
  | running stage => exact fits.2
  | ended ending => exact fits.2

/-- What may be told of a request at its position may be seen. -/
theorem Watch.Fits.tell {position next : Position} {event : Event} {signal : Signal}
    (fits : watch.Fits ticket position) (leads : position.tell isScanning event = some next)
    (its : signal.ticket = some ticket) (same : signal.event = event) :
    ∃ after, watch.Sees signal after ∧ after.Fits ticket next := by
  subst same
  generalize told : signal.event = event at leads
  unfold Position.tell at leads
  split at leads
  case h_1 =>
    cases leads
    exact ⟨watch, .pending its (by rw [told]; rfl), fits⟩
  case h_2 =>
    cases leads
    exact ⟨watch, .dropped its fits.1 (by rw [told]; rfl), fits.1, fits.next_le⟩
  case h_3 =>
    cases leads
    exact ⟨⟨some ticket, ticket + 1⟩, .started its (by rw [told]; rfl) fits.1 fits.2, rfl, le_rfl⟩
  case h_4 =>
    split at leads
    · contradiction
    · cases leads
      exact ⟨_, .ended its fits.1 (by rw [told]; rfl), rfl, fits.2⟩
  case h_5 =>
    cases leads
    exact ⟨_, .ended its fits.1 (by rw [told]; rfl), rfl, fits.2⟩
  case h_6 =>
    cases leads
    exact ⟨_, .ended its fits.1 (by rw [told]; rfl), rfl, fits.2⟩
  case h_7 =>
    obtain ⟨further, onward, rfl⟩ := Option.map_eq_some_iff.mp leads
    obtain ⟨goesOn, notAgain, -⟩ := Stage.kind_of_tell onward
    exact ⟨watch, .wentOn its fits.1 (told ▸ goesOn) (told ▸ notAgain), fits⟩
  case h_8 => contradiction

theorem Watch.Fits.tellAll {position reached : Position} {events : List Event}
    (fits : watch.Fits ticket position) (leads : position.tellAll isScanning events = some reached)
    (surveyor : Surveyor) (job : Job) :
    ∃ last, watch.SeesAll (events.map (surveyor.signal (some ticket) job)) last ∧
      last.Fits ticket reached := by
  induction events generalizing watch position with
  | nil =>
      cases leads
      exact ⟨watch, rfl, fits⟩
  | cons event rest ih =>
      obtain ⟨next, first, onward⟩ := Option.bind_eq_some_iff.mp leads
      have its : (surveyor.signal (some ticket) job event).ticket = some ticket := rfl
      obtain ⟨middle, sees, stillFits⟩ := fits.tell first its rfl
      obtain ⟨last, all, atEnd⟩ := ih stillFits onward
      exact ⟨last, ⟨middle, sees, all⟩, atEnd⟩

/-! ## A surveyor under watch -/

/-- What the signals seen so far tell is so. -/
structure Watched (watch : Watch) (surveyor : Surveyor) : Prop where
  current : surveyor.running = watch.current.toList
  begun : ∀ ticket, watch.current = some ticket → watch.next ≤ ticket + 1
  queued : ∀ ticket ∈ surveyor.queue, watch.next ≤ ticket
  fresh : watch.next ≤ surveyor.accepted

/-- A step whose signals tell what is so. -/
def Serves (before : Surveyor) (step : Surveyor × List Signal) : Prop :=
  ∀ watch, Watched watch before → ∃ last, watch.SeesAll step.2 last ∧ Watched last step.1

theorem Serves.refl (surveyor : Surveyor) : Serves surveyor (surveyor, []) :=
  fun watch watched => ⟨watch, rfl, watched⟩

theorem Serves.trans {before : Surveyor} {first second : Surveyor × List Signal}
    (firstServes : Serves before first) (secondServes : Serves first.1 second) :
    Serves before (second.1, first.2 ++ second.2) := by
  intro watch watched
  obtain ⟨middle, front, between⟩ := firstServes watch watched
  obtain ⟨last, back, atEnd⟩ := secondServes middle between
  exact ⟨last, front.append back, atEnd⟩

theorem Alike.serves {before after : Surveyor} (alike : Alike before after) :
    Serves before (after, []) := by
  intro watch watched
  refine ⟨watch, rfl, ?_, watched.begun, ?_, ?_⟩
  · rw [running, alike.worker]
    exact watched.current
  · rw [alike.queue]
    exact watched.queued
  · rw [alike.accepted]
    exact watched.fresh

/-! ## Callers and the timer -/

theorem serves_submit (surveyor : Surveyor) (job : Job) :
    Serves surveyor (surveyor.submit job).2 := by
  intro watch watched
  unfold submit
  split
  · exact ⟨watch, ⟨watch, .rejected rfl rfl, rfl⟩, watched.current, watched.begun, watched.queued,
      watched.fresh⟩
  · refine ⟨watch, ?_, watched.current, watched.begun, ?_, watched.fresh.trans (Nat.le_succ _)⟩
    · apply Watch.seesAll_of_forall
      intro signal member
      dsimp only at member
      split at member
      · contradiction
      · rw [List.mem_singleton.mp member]
        exact .pending rfl rfl
    · intro ticket member
      rcases List.mem_append.mp member with old | new
      · exact watched.queued ticket old
      · rw [List.mem_singleton.mp new]
        exact watched.fresh

theorem composable_serves : Composable Serves where
  trans := Serves.trans
  timer _ _ := Alike.serves ⟨rfl, rfl, rfl, rfl, rfl⟩
  cancelWhere surveyor test := (alike_cancelWhere test surveyor).serves
  submit := serves_submit

/-! ## The worker -/

theorem watched_settle (begun : Begun surveyor ticket) {position : Position}
    (fits : watch.Fits ticket position) {step : List Event × Status}
    (stepFrom : StepFrom isScanning position step) (now : Nat) (job : Job) :
    ∃ last, watch.SeesAll (surveyor.settle now ticket job step).2 last ∧
      Watched last (surveyor.settle now ticket job step).1 := by
  obtain ⟨reached, leads, suits⟩ := stepFrom
  obtain ⟨last, all, atEnd⟩ := fits.tellAll leads surveyor job
  have increasing := begun.increasing
  rw [begun.tickets_eq, List.pairwise_cons] at increasing
  have queued : ∀ other ∈ surveyor.queue, last.next ≤ other :=
    fun other member => atEnd.next_le.trans (increasing.1 other member)
  have fresh : last.next ≤ surveyor.accepted :=
    atEnd.next_le.trans (begun.below ticket begun.mem_tickets)
  rw [signals_settle]
  refine ⟨last, all, ?_⟩
  rcases step with ⟨events, activity | ending⟩
  · obtain ⟨stage, rfl⟩ := exists_stage_of_follows suits
    refine ⟨?_, ?_, queued, fresh⟩
    · rw [atEnd.1]
      rfl
    · intro other current
      cases atEnd.1.symm.trans current
      exact atEnd.2
  · have atLast : reached = .ended ending := suits
    subst atLast
    have alike := alike_finish surveyor now ticket job ending
    refine ⟨?_, ?_, ?_, ?_⟩
    · rw [atEnd.1, running, settle, alike.worker]
      rfl
    · intro other current
      cases atEnd.1.symm.trans current
    · rw [settle, alike.queue]
      exact queued
    · rw [settle, alike.accepted]
      exact fresh

/-- While no request runs the watch is free. -/
theorem Watched.idle (watched : Watched watch surveyor) (idle : surveyor.worker = .idle) :
    watch.current = none := by
  have current := watched.current
  rw [running, idle] at current
  exact Option.toList_eq_nil_iff.mp current.symm

theorem cancelled_of_mem_drain {left : List Nat} {signal : Signal}
    (member : signal ∈ (drain left surveyor).2) :
    (∃ ticket, signal.ticket = some ticket) ∧ signal.event.kind = .cancelled := by
  induction left generalizing surveyor with
  | nil => contradiction
  | cons first rest ih =>
      unfold drain at member
      split at member
      · exact ih member
      · rcases List.mem_cons.mp member with rfl | later
        · exact ⟨⟨first, rfl⟩, rfl⟩
        · exact ih later

theorem serves_retire (orderly : Orderly surveyor) (idle : surveyor.worker = .idle) :
    Serves surveyor surveyor.retire := by
  intro watch watched
  have drained := drained_retire orderly idle
  have isFree := watched.idle idle
  refine ⟨watch, ?_, ?_, watched.begun, ?_, ?_⟩
  · apply Watch.seesAll_of_forall
    intro signal member
    obtain ⟨⟨ticket, its⟩, isCancelled⟩ := cancelled_of_mem_drain member
    exact .dropped its isFree isCancelled
  · rw [isFree, running, drained.worker]
    rfl
  · rw [drained.queue]
    simp
  · rw [drained.accepted]
    exact watched.fresh

theorem serves_begin (orderly : Orderly surveyor) (now : Moment) {rest : List Nat}
    (idle : surveyor.worker = .idle) (queued : surveyor.queue = ticket :: rest) (job : Job) :
    Serves surveyor (Surveyor.begin now ticket job { surveyor with queue := rest }) := by
  intro watch watched
  have begun := Begun.of_taken orderly idle queued
  have told : watch.SeesAll (Surveyor.positions ticket { surveyor with queue := rest }) watch := by
    apply Watch.seesAll_of_forall
    intro signal member
    obtain ⟨waits, other, -, its⟩ := mem_positions begun member
    exact .pending its waits
  have inTurn : watch.next ≤ ticket :=
    watched.queued ticket (by rw [queued]; exact List.mem_cons_self)
  have stepFrom := Survey.advance_stepFrom now.timestamp job.isCancelled
    (Survey.follows_run (Surveyor.survey { surveyor with queue := rest } job))
  have fits : watch.Fits ticket .waiting := ⟨watched.idle idle, inTurn⟩
  obtain ⟨last, all, atEnd⟩ := watched_settle begun fits stepFrom now.millis job
  exact ⟨last, told.append all, atEnd⟩

theorem serves_take (orderly : Orderly surveyor) (now : Moment) :
    Serves surveyor (surveyor.take now) := by
  have taken := takes orderly now
  generalize surveyor.take now = step at taken ⊢
  cases taken with
  | busy works => exact .refl surveyor
  | retires idle stopping => exact serves_retire orderly idle
  | rests idle nothing => exact .refl surveyor
  | begins ticket rest job idle queued found => exact serves_begin orderly now idle queued job

theorem serves_resume (orderly : Orderly surveyor) (working : Working surveyor) (now : Moment)
    (wake : Survey.Wake) : Serves surveyor (surveyor.resume now wake) := by
  intro watch watched
  have resumed := resumes surveyor now wake
  generalize surveyor.resume now wake = step at resumed ⊢
  cases resumed with
  | settles ticket job activity works =>
      obtain ⟨isScanning, position, follows⟩ := working ticket job activity works
      obtain ⟨stage, rfl⟩ := exists_stage_of_follows follows
      have current : watch.current = some ticket := by
        have shown := watched.current
        rw [running, works] at shown
        exact Option.toList_eq_singleton_iff.mp shown.symm
      have fits : watch.Fits ticket (activity.woken wake (.running stage)) := by
        rcases Survey.answers_woken wake follows with same | ⟨-, handed | refused⟩
        · rw [same]
          exact ⟨current, watched.begun ticket current⟩
        · rw [handed]
          exact ⟨current, watched.begun ticket current⟩
        · rw [refused]
          exact ⟨current, watched.begun ticket current⟩
      exact watched_settle (Begun.of_orderly orderly works) fits
        (Survey.resume_stepFrom now.timestamp (surveyor.isCancelled ticket) wake follows)
        now.millis job
  | rests => exact ⟨watch, rfl, watched⟩

/-! ## Turns -/

theorem working_resume (working : Working surveyor) (now : Moment) (wake : Survey.Wake) :
    Working (surveyor.resume now wake).1 := by
  have resumed := resumes surveyor now wake
  generalize surveyor.resume now wake = step at resumed ⊢
  cases resumed with
  | settles ticket job activity works =>
      obtain ⟨isScanning, position, follows⟩ := working ticket job activity works
      exact working_settle surveyor now.millis ticket job
        (Survey.resume_stepFrom now.timestamp (surveyor.isCancelled ticket) wake follows)
  | rests => exact working

theorem working_act (orderly : Orderly surveyor) (working : Working surveyor) (turn : Turn) :
    Working (turn.act surveyor).1 := by
  by_cases works : turn.isWork
  · cases turn with
    | take now => exact (labours_take orderly working now).working
    | resume now wake => exact working_resume working now wake
    | _ => contradiction
  · exact working_of_worker_eq working (aside_act turn works surveyor).worker

theorem serves_act (orderly : Orderly surveyor) (working : Working surveyor) (turn : Turn) :
    Serves surveyor (turn.act surveyor) := by
  cases turn with
  | discover request surroundings => exact serves_submit surveyor _
  | register request surroundings => exact serves_submit surveyor _
  | cancel id => exact (alike_cancelWhere (hasId id) surveyor).serves
  | configure mode config surroundings now =>
      exact (alike_configure mode config surroundings now surveyor).serves
  | scan now => exact (alike_arm now 0 surveyor).serves
  | shutDown => exact (alike_stop surveyor).serves
  | fire now => exact composable_serves.fire surveyor now
  | take now => exact serves_take orderly now
  | resume now wake => exact serves_resume orderly working now wake

/-- Whatever turns are taken, the signals tell what runs. -/
theorem serves_play (orderly : Orderly surveyor) (working : Working surveyor)
    (turns : List Turn) : Serves surveyor (play turns surveyor) := by
  induction turns generalizing surveyor with
  | nil => exact .refl surveyor
  | cons turn rest ih =>
      have first := serves_act orderly working turn
      exact first.trans (ih (keeps_act orderly turn).orderly (working_act orderly working turn))

theorem watched_start (discoverer : Settings.Discoverer)
    (capacity initialDelay reportInterval : Nat) (isContainer : Bool) (now : Nat) :
    Watched {} (start discoverer capacity initialDelay reportInterval isContainer now) where
  current := rfl
  begun _ isCurrent := by contradiction
  queued _ member := by contradiction
  fresh := Nat.zero_le _

end FieldSurvey.Surveyor
